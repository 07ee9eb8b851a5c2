import LiveSync.Proofs.Connection.Handshake
import LiveSync.Proofs.Connection.Timers
import LiveSync.Proofs.Session.Calls
import LiveSync.Session.Server
import Mathlib.Data.Option.Basic

/-!
# What a client hears on a socket

What a server sends waits on the socket until the connection takes it, one item at a time, along
with commands and timers.  As long as the connection holds the socket nothing is lost, nothing is
taken twice, and the order stays.

* `Session.unread` — what waits on a socket.
* `Keeps`, `keeps_react` — effects leave it alone.
* `Draws`, `draws_nextInput?` — how a connection that holds the socket comes by its next input.
* `Hears`, `Hears.in_order` — what may happen, with what was sent and what was taken.
* `toTake_react_lt`, `Hears.runInputs` — the connection gets to everything that is there.
* `kept_advance`, `Hears.advance` — all that a session does while the clock runs.
-/

namespace LiveSync

open LiveSync.Json

/-! ## The link -/

namespace Transport.Network

/-- What the client has not read yet of what came for its socket. -/
def unread (n : Network) (socket : SocketNumber) : List Incoming :=
  ((n.link? socket).map (·.toClient)).getD []

section

variable {n n' : Network} {socket : SocketNumber}

theorem unread_modify (n : Network) (other : SocketNumber) (f : Link → Link)
    (hf : ∀ l, (f l).toClient = l.toClient) (socket : SocketNumber) :
    (n.modify other f).unread socket = n.unread socket := by
  unfold unread link? modify
  rw [List.getElem?_modify]
  cases n.links[socket]? with
  | none => rfl
  | some l => by_cases h : other = socket <;> simp [h, hf]

theorem unread_send (n : Network) (other : SocketNumber) (text : String) (socket : SocketNumber) :
    (n.send other text).2.unread socket = n.unread socket := by
  unfold send
  split
  · rfl
  · exact unread_modify n other _ (by intro l; rfl) socket

/-- What is sent to a client that listens waits behind the rest. -/
theorem unread_push {item : Incoming} (h : (n.push socket item).1 = true) :
    (n.push socket item).2.unread socket = n.unread socket ++ [item] := by
  unfold push at h ⊢
  split at h
  · rename_i hopen
    rw [if_pos hopen]
    obtain ⟨l, hl, -⟩ := (Option.any_eq_true _ _).1 hopen
    unfold unread link? modify
    rw [List.getElem?_modify_eq, show n.links[socket]? = some l from hl]
    rfl
  · exact absurd h nofun

theorem unread_receive {item : Incoming} (h : n.receive? socket = some (.ok item, n')) :
    n.unread socket = item :: n'.unread socket := by
  unfold receive? at h
  split at h
  · exact absurd h nofun
  rename_i l hl
  split at h
  · rename_i first rest hfirst
    obtain ⟨hitem, rfl⟩ := Prod.mk.inj (Option.some.inj h)
    obtain rfl := Except.ok.inj hitem
    have hlink : n.links[socket]? = some l := hl
    simp [unread, link?, modify, hlink, hfirst]
  · split at h
    · exact absurd h nofun
    · exact absurd (Prod.mk.inj (Option.some.inj h)).1 nofun

theorem receive?_of_unread {item : Incoming} {rest : List Incoming}
    (h : n.unread socket = item :: rest) : n.receive? socket =
      some (.ok item, n.modify socket fun l => { l with toClient := rest }) := by
  unfold unread at h
  unfold receive?
  cases hl : n.link? socket with
  | none => simp [hl] at h
  | some l =>
    have hclient : l.toClient = item :: rest := by simpa [hl] using h
    simp [hclient]

/-- A socket fails once everything that came for it was read. -/
theorem unread_fault {f : Fault} (h : n.receive? socket = some (.error f, n')) :
    n.unread socket = [] ∧ n' = n := by
  unfold receive? at h
  split at h
  · exact absurd h nofun
  rename_i l hl
  split at h
  · exact absurd (Prod.mk.inj (Option.some.inj h)).1 nofun
  · rename_i hnone
    split at h
    · exact absurd h nofun
    · exact ⟨by simp [unread, hl, hnone], (Prod.mk.inj (Option.some.inj h)).2.symm⟩

theorem unread_pending (h : n.receive? socket = none) : n.unread socket = [] := by
  unfold receive? at h
  split at h
  · rename_i hl
    simp [unread, hl]
  · rename_i l hl
    split at h
    · exact absurd h nofun
    · rename_i hnone
      simp [unread, hl, hnone]

end

end Transport.Network

namespace Session

/-- What waits on a socket of the client. -/
def unread (s : Session) (socket : SocketNumber) : List Incoming :=
  s.network.unread socket

/-! ## Effects -/

/-- Two sessions agree on the time and on what waits on a socket. -/
structure Keeps (socket : SocketNumber) (s s' : Session) : Prop where
  /-- The time is the same. -/
  now : s'.now = s.now
  /-- So is what waits. -/
  unread : s'.unread socket = s.unread socket

section

variable {socket : SocketNumber}

theorem Keeps.trans {s s' s'' : Session} (h : Keeps socket s s') (h' : Keeps socket s' s'') :
    Keeps socket s s'' :=
  ⟨h'.now.trans h.now, h'.unread.trans h.unread⟩

/-- What is done to each of many things keeps what it keeps for one. -/
theorem Keeps.foldl {α : Type} {f : Session → α → Session} (hf : ∀ s x, Keeps socket s (f s x))
    (s : Session) (xs : List α) : Keeps socket s (xs.foldl f s) := by
  induction xs generalizing s with
  | nil => exact ⟨rfl, rfl⟩
  | cons x rest ih => exact (hf s x).trans (ih _)

theorem keeps_carryOut (s : Session) (e : Effect) : Keeps socket s (s.carryOut e) := by
  cases e with
  | publish event payload =>
    refine Keeps.foldl (fun s party => ?_) s (s.router.recipients event)
    cases party <;> exact ⟨rfl, rfl⟩
  | frame other envelope fault =>
    show Keeps socket s (s.writeFrame other envelope fault)
    unfold writeFrame
    cases fault with
    | none => exact ⟨rfl, Transport.Network.unread_send ..⟩
    | some f => exact ⟨rfl, rfl⟩
  | close other => exact ⟨rfl, Transport.Network.unread_modify _ _ _ (by intro l; rfl) _⟩
  | _ => exact ⟨rfl, rfl⟩

theorem keeps_abandonInbox (s : Session) : Keeps socket s s.abandonInbox :=
  (⟨rfl, rfl⟩ : Keeps socket s { s with inbox := [] }).trans
    (Keeps.foldl (fun s r => (⟨rfl, rfl⟩ : Keeps socket s (s.reply r))) _ _)

/-- **A reaction takes no time and leaves alone what waits.** -/
theorem keeps_react (s : Session) (i : Input) : Keeps socket s (s.react i) := by
  have hdone : Keeps socket s ((s.connection.step s.moment i).2.foldl carryOut
      { s with connection := (s.connection.step s.moment i).1 }) :=
    (⟨rfl, rfl⟩ : Keeps socket s
      { s with connection := (s.connection.step s.moment i).1 }).trans
        (Keeps.foldl keeps_carryOut _ _)
  unfold react
  dsimp only
  split
  · exact hdone.trans (keeps_abandonInbox _)
  · exact hdone

end

theorem now_react (s : Session) (i : Input) : (s.react i).now = s.now := by
  have hkeeps : Keeps 0 s (s.react i) := keeps_react s i
  exact hkeeps.now

/-! ## The next input -/

/-- The session when only these items are left to read from a socket. -/
def leaving (s : Session) (socket : SocketNumber) (items : List Incoming) : Session :=
  { s with network := s.network.modify socket fun l => { l with toClient := items } }

/-- How a connection that holds a socket comes by its next input. -/
inductive Draws (socket : SocketNumber) (s : Session) : Input → Session → Prop where
  /-- It takes the first command from the queue. -/
  | command {x : Command} {rest : List Command} (hinbox : s.inbox = x :: rest) :
      Draws socket s (.command x) { s with inbox := rest }
  /-- It learns that no command will follow. -/
  | commandsClosed : Draws socket s .commandsClosed s
  /-- It takes the first item from the socket. -/
  | item {item : Incoming} {network : Transport.Network}
      (hunread : s.unread socket = item :: network.unread socket) :
      Draws socket s (.received (.ok item)) { s with network := network }
  /-- The socket has nothing more, and fails. -/
  | fault {f : Fault} (hunread : s.unread socket = []) : Draws socket s (.received (.error f)) s
  /-- The heartbeat is due. -/
  | heartbeat (hs : s.connection.socket = some socket)
      (hdue : s.isDue s.connection.heartbeat.nextDeadline = true) : Draws socket s .heartbeatDue s
  /-- An acknowledgement is overdue. -/
  | acknowledgement (hs : s.connection.socket = some socket)
      (hdue : s.isDue s.connection.registry.nextDeadline = true) :
      Draws socket s .acknowledgementDue s
  /-- The socket has nothing more, and the wait for the handshake is over. -/
  | overdue {deadline : Nat} (ha : s.connection.attempt = some (.handshaking socket deadline))
      (hunread : s.unread socket = []) (hdue : deadline ≤ s.now) :
      Draws socket s .handshakeTimedOut s

section

variable {s s' : Session} {socket : SocketNumber} {i : Input}

theorem Draws.same (h : s.Draws socket i s') :
    s'.connection = s.connection ∧ s'.now = s.now := by
  cases h <;> exact ⟨rfl, rfl⟩

theorem draws_takeCommand (h : s.takeCommand = some (i, s')) : s.Draws socket i s' := by
  unfold takeCommand at h
  split at h
  · rename_i hinbox
    obtain ⟨rfl, rfl⟩ := Prod.mk.inj (Option.some.inj h)
    exact .command hinbox
  · obtain ⟨-, h⟩ := Option.ite_none_left_eq_some.1 h
    obtain ⟨rfl, rfl⟩ := Prod.mk.inj (Option.some.inj h)
    exact .commandsClosed

theorem draws_takeIncoming (h : s.takeIncoming socket = some (i, s')) : s.Draws socket i s' := by
  obtain ⟨⟨item, network⟩, hreceive, heq⟩ := Option.map_eq_some_iff.1 h
  obtain ⟨rfl, rfl⟩ := Prod.mk.inj heq
  cases item with
  | ok item => exact .item (Transport.Network.unread_receive hreceive)
  | error f =>
    obtain ⟨hunread, rfl⟩ := Transport.Network.unread_fault hreceive
    exact .fault hunread

theorem unread_takeIncoming (h : s.takeIncoming socket = none) : s.unread socket = [] :=
  Transport.Network.unread_pending (Option.map_eq_none_iff.1 h)

/-- A timer is taken once its instant has come, and nothing changes. -/
theorem draws_takeTimer {at? : Option Nat} {j : Input} (h : s.takeTimer at? j = some (i, s'))
    (hdue : s.isDue at? = true → s.Draws socket j s) : s.Draws socket i s' := by
  obtain ⟨hcome, heq⟩ := Option.ite_none_right_eq_some.1 h
  obtain ⟨rfl, rfl⟩ := Prod.mk.inj (Option.some.inj heq)
  exact hdue hcome

section

variable (h : s.connection.Ready)
include h

theorem nextInput?_handshaking {deadline : Nat}
    (ha : s.connection.attempt = some (.handshaking socket deadline)) :
    s.nextInput? = (s.takeCommand <|>
      (s.takeIncoming socket <|> s.takeTimer (some deadline) .handshakeTimedOut)) := by
  obtain ⟨hs, hretry⟩ := h.attempt (by rw [ha]; rfl)
  have hrunning := Connection.Holds.running h (Or.inr ⟨deadline, ha⟩)
  unfold nextInput?
  dsimp only
  rcases hs with hs | hs <;>
    simp only [hs, hretry, ha, hrunning, takeOfAttempt, Option.isSome_none, Bool.false_eq_true,
      if_false]

theorem nextInput?_connected (hs : s.connection.socket = some socket) :
    s.nextInput? = (s.takeTimer s.connection.heartbeat.nextDeadline .heartbeatDue <|>
      (s.takeCommand <|> (s.takeIncoming socket <|>
        s.takeTimer s.connection.registry.nextDeadline .acknowledgementDue))) := by
  have hc := h.socket.1 (by rw [hs]; rfl)
  have hrunning := Connection.Holds.running h (Or.inl hs)
  unfold nextInput?
  dsimp only
  simp only [hc, hs, hrunning, Option.bind_some, Bool.false_eq_true, if_false]

/-- What waits is read, unless a command or a heartbeat comes first; no deadline does. -/
theorem nextInput?_item (hh : s.connection.Holds socket) (hcommand : s.takeCommand = none)
    (hbeat : s.isDue s.connection.heartbeat.nextDeadline = false) {item : Incoming}
    {rest : List Incoming} (hunread : s.unread socket = item :: rest) :
    s.nextInput? = some (.received (.ok item), s.leaving socket rest) := by
  have hitem : s.takeIncoming socket = some (.received (.ok item), s.leaving socket rest) := by
    unfold takeIncoming
    rw [Transport.Network.receive?_of_unread hunread]
    rfl
  rcases hh with hs | ⟨deadline, ha⟩
  · have htimer : s.takeTimer s.connection.heartbeat.nextDeadline .heartbeatDue = none := by
      unfold takeTimer
      rw [hbeat, if_neg Bool.false_ne_true]
    rw [nextInput?_connected h hs, htimer, hcommand, hitem]
    rfl
  · rw [nextInput?_handshaking h ha, hcommand, hitem]
    rfl

/-- **A connection that holds a socket comes by its next input in one of these ways.** -/
theorem draws_nextInput? (hh : s.connection.Holds socket) (hnext : s.nextInput? = some (i, s')) :
    s.Draws socket i s' := by
  rcases hh with hs | ⟨deadline, ha⟩
  · rw [nextInput?_connected h hs] at hnext
    rcases (Option.orElse_eq_some ..).1 hnext with hbeat | ⟨-, hnext⟩
    · exact draws_takeTimer hbeat (.heartbeat hs)
    rcases (Option.orElse_eq_some ..).1 hnext with hcommand | ⟨-, hnext⟩
    · exact draws_takeCommand hcommand
    rcases (Option.orElse_eq_some ..).1 hnext with hitem | ⟨-, hlast⟩
    · exact draws_takeIncoming hitem
    · exact draws_takeTimer hlast (.acknowledgement hs)
  · rw [nextInput?_handshaking h ha] at hnext
    rcases (Option.orElse_eq_some ..).1 hnext with hcommand | ⟨-, hnext⟩
    · exact draws_takeCommand hcommand
    rcases (Option.orElse_eq_some ..).1 hnext with hitem | ⟨hnone, hlast⟩
    · exact draws_takeIncoming hitem
    · refine draws_takeTimer hlast fun hdue => .overdue ha (unread_takeIncoming hnone) ?_
      simpa [isDue] using hdue

/-- When there is no input nothing waits. -/
theorem unread_of_nextInput?_eq_none (hh : s.connection.Holds socket)
    (hnone : s.nextInput? = none) : s.unread socket = [] := by
  rcases hh with hs | ⟨deadline, ha⟩
  · rw [nextInput?_connected h hs] at hnone
    simp only [Option.orElse_eq_none] at hnone
    exact unread_takeIncoming hnone.2.2.1
  · rw [nextInput?_handshaking h ha] at hnone
    simp only [Option.orElse_eq_none] at hnone
    exact unread_takeIncoming hnone.2.1

/-- When there is no input the wait for the handshake is not over. -/
theorem lt_deadline_of_nextInput?_eq_none {deadline : Nat}
    (ha : s.connection.attempt = some (.handshaking socket deadline))
    (hnone : s.nextInput? = none) : s.now < deadline := by
  rw [nextInput?_handshaking h ha] at hnone
  simp only [Option.orElse_eq_none] at hnone
  simpa [takeTimer, isDue] using hnone.2.2

end

end

/-! ## What may happen -/

/-- The item that an input brings from the socket. -/
def itemOf? : Input → Option Incoming
  | .received (.ok item) => some item
  | _ => none

/-- The items that inputs bring from the socket, in order. -/
def itemsOf (inputs : List (Moment × Input)) : List Incoming :=
  inputs.filterMap fun x => itemOf? x.2

@[simp] theorem itemsOf_append (a b : List (Moment × Input)) :
    itemsOf (a ++ b) = itemsOf a ++ itemsOf b :=
  List.filterMap_append ..

/-- What may happen in a session as far as one socket is concerned, with what the server sent on
it so far and what the connection took. -/
inductive Hears (socket : SocketNumber) (s₀ : Session) :
    List Incoming → List (Moment × Input) → Session → Prop where
  /-- Nothing has happened. -/
  | start : Hears socket s₀ [] [] s₀
  /-- The server sends something, and the client listens. -/
  | deliver {given : List Incoming} {taken : List (Moment × Input)} {s : Session}
      (h : Hears socket s₀ given taken s) {item : Incoming}
      (hopen : (s.push socket item).1 = true) :
      Hears socket s₀ (given ++ [item]) taken (s.push socket item).2
  /-- The connection takes its next input. -/
  | react {given : List Incoming} {taken : List (Moment × Input)} {s s' : Session} {i : Input}
      (h : Hears socket s₀ given taken s) (hnext : s.nextInput? = some (i, s')) :
      Hears socket s₀ given (taken ++ [(s'.moment, i)]) (s'.react i)
  /-- Something else goes on: time passes, a call is made, another socket gets something. -/
  | aside {given : List Incoming} {taken : List (Moment × Input)} {s s' : Session}
      (h : Hears socket s₀ given taken s) (hconnection : s'.connection = s.connection)
      (hunread : s'.unread socket = s.unread socket) : Hears socket s₀ given taken s'

section

variable {s₀ s : Session} {socket : SocketNumber} {given : List Incoming}
  {taken : List (Moment × Input)} (h₀ : s₀.connection.Ready) (h : Hears socket s₀ given taken s)

theorem unread_push {item : Incoming} (hopen : (s.push socket item).1 = true) :
    (s.push socket item).2.unread socket = s.unread socket ++ [item] := by
  have hwake : ∀ (s : Session) (t : Task), (s.wake t).unread socket = s.unread socket := by
    intro s t
    unfold wake
    split <;> rfl
  exact (hwake ..).trans (Transport.Network.unread_push hopen)

theorem connection_push (item : Incoming) :
    (s.push socket item).2.connection = s.connection :=
  (alike_wake ..).connection

include h

/-- The connection is what it made of the inputs that it took. -/
theorem Hears.connection : s.connection = (s₀.connection.run taken).1 := by
  induction h with
  | start => rfl
  | deliver _ _ ih => rw [connection_push, ih]
  | react _ hnext ih =>
    obtain ⟨hsame, -, -⟩ := (takes_nextInput? hnext).same
    rw [connection_react, hsame, ih, Connection.run_append]
    rfl
  | aside _ hconnection _ ih => rw [hconnection, ih]

include h₀

theorem Hears.ready : s.connection.Ready := by
  rw [h.connection]
  exact Connection.ready_run h₀ taken

/-- **Nothing is lost, nothing is taken twice, and the order stays.**  As long as the connection
holds the socket, what was sent is what was taken, followed by what still waits. -/
theorem Hears.in_order (hholds : s₀.connection.Throughout (·.Holds socket) taken) :
    s₀.unread socket ++ given = itemsOf taken ++ s.unread socket := by
  induction h with
  | start => exact List.append_nil _
  | deliver _ hopen ih => rw [unread_push hopen, ← List.append_assoc, ih hholds, List.append_assoc]
  | @react given taken s s' i h hnext ih =>
    obtain ⟨hbefore, hlast⟩ := Connection.throughout_append.1 hholds
    have hholding : s.connection.Holds socket := by
      rw [h.connection]
      exact hlast.head
    rw [(keeps_react s' i).unread, ih hbefore, itemsOf_append, List.append_assoc]
    congr 1
    cases draws_nextInput? (h.ready h₀) hholding hnext with
    | item hunread => exact hunread
    | _ => rfl
  | aside _ _ hunread ih => rw [hunread, ih hholds]

end

/-! ## Getting to everything -/

/-- How much there is for the connection to take now: commands, items from the socket and timers
that are due. -/
def toTake (s : Session) (socket : SocketNumber) : Nat :=
  s.inbox.length + (s.unread socket).length +
    (s.isDue s.connection.heartbeat.nextDeadline).toNat +
    (s.isDue s.connection.registry.nextDeadline).toNat

theorem isDue_eq_false_iff {s : Session} {at? : Option Nat} :
    s.isDue at? = false ↔ ∀ due, at? = some due → s.now < due := by
  cases at? with
  | none => simp [isDue]
  | some due => simp [isDue]

theorem toNat_le_toNat {b b' : Bool} (h : b = false → b' = false) : b'.toNat ≤ b.toNat := by
  cases b with
  | false => rw [h rfl]
  | true => exact Bool.toNat_le b'

section

variable {s s' : Session} {socket : SocketNumber} {i : Input} (h : s.connection.Ready)
include h

/-- The heartbeat becomes due only with time, and is not due once it went off. -/
theorem isDue_heartbeat_react (hs : s.connection.heartbeat.Sound)
    (hconnection : s'.connection = s.connection) (hnow : s'.now = s.now)
    (hi : i = .heartbeatDue ∨ s.isDue s.connection.heartbeat.nextDeadline = false) :
    (s'.react i).isDue (s'.react i).connection.heartbeat.nextDeadline = false := by
  have hahead : (s.connection.step s'.moment i).1.heartbeat.Ahead s'.moment.now := by
    rcases hi with rfl | hi
    · exact Connection.heartbeat_ahead_beat h hs s'.moment
    · refine (Connection.beats_step _ _ _).ahead hs ?_
      rw [isDue_eq_false_iff, ← hnow] at hi
      exact hi
  rw [isDue_eq_false_iff, now_react, connection_react, hconnection]
  exact hahead

/-- So it is with the acknowledgements. -/
theorem isDue_registry_react (hconnection : s'.connection = s.connection) (hnow : s'.now = s.now)
    (hi : i = .acknowledgementDue ∨ s.isDue s.connection.registry.nextDeadline = false) :
    (s'.react i).isDue (s'.react i).connection.registry.nextDeadline = false := by
  have hahead : (s.connection.step s'.moment i).1.registry.Ahead s'.moment.now := by
    rcases hi with rfl | hi
    · exact Connection.registry_ahead_expire h s'.moment
    · refine Connection.registry_ahead_step h ?_ i
      rw [isDue_eq_false_iff, ← hnow] at hi
      exact hi
  rw [isDue_eq_false_iff, now_react, connection_react, hconnection]
  exact hahead

/-- **Every input that does not cost the socket leaves less to take.** -/
theorem toTake_react_lt (hs : s.connection.heartbeat.Sound) (hh : s.connection.Holds socket)
    (hd : s.Draws socket i s') (hstill : (s'.react i).connection.Holds socket) :
    (s'.react i).toTake socket < s.toTake socket := by
  obtain ⟨hconnection, hnow⟩ := hd.same
  have hunread : (s'.react i).unread socket = s'.unread socket := (keeps_react s' i).unread
  have hinbox : (s'.react i).inbox = s'.inbox := by
    have hready : (s'.react i).connection.Ready := by
      rw [connection_react, hconnection]
      exact Connection.ready_step h _ _
    have hrunning := hstill.running hready
    rw [connection_react] at hrunning
    exact (react_running s' i hrunning).inbox
  -- neither timer becomes due at this instant, and the one that goes off is not due any more
  have hbeat := isDue_heartbeat_react (i := i) h hs hconnection hnow
  have hack := isDue_registry_react (i := i) h hconnection hnow
  unfold toTake
  rw [hinbox, hunread]
  rw [connection_react, hconnection] at hstill
  generalize (s'.react i).isDue (s'.react i).connection.heartbeat.nextDeadline = beat' at hbeat ⊢
  generalize (s'.react i).isDue (s'.react i).connection.registry.nextDeadline = ack' at hack ⊢
  have hbeatLe := toNat_le_toNat fun hf => hbeat (Or.inr hf)
  have hackLe := toNat_le_toNat fun hf => hack (Or.inr hf)
  cases hd with
  | command hcommand =>
    rw [hcommand, List.length_cons]
    show _ + (s.unread socket).length + _ + _ < _
    dsimp only
    omega
  | commandsClosed => exact absurd hstill (Connection.not_holds_commandsClosed h hh)
  | @item _ network hitem =>
    rw [hitem, List.length_cons]
    show s.inbox.length + (network.unread socket).length + _ + _ < _
    omega
  | fault => exact absurd hstill (Connection.not_holds_fault h hh _)
  | heartbeat _ hdue =>
    rw [hdue, hbeat (Or.inl rfl), Bool.toNat_true, Bool.toNat_false]
    omega
  | acknowledgement _ hdue =>
    rw [hdue, hack (Or.inl rfl), Bool.toNat_true, Bool.toNat_false]
    omega
  | overdue ha => exact absurd hstill (Connection.not_holds_overdue h ha)

end

/-- **The connection gets to everything.**  With turns enough it goes on until it gives up the
socket or there is no input left. -/
theorem Hears.runInputs {s₀ s : Session} {socket : SocketNumber} {given : List Incoming}
    {taken : List (Moment × Input)} (h : Hears socket s₀ given taken s)
    (hready : s.connection.Ready) (hsound : s.connection.heartbeat.Sound) (stamp turns : Nat) :
    ∃ more, Hears socket s₀ given (taken ++ more) (runInputs stamp turns s) ∧
      (s.toTake socket < turns → s.connection.Throughout (·.Holds socket) more →
        (runInputs stamp turns s).connection.Holds socket →
        (runInputs stamp turns s).nextInput? = none) := by
  induction turns generalizing s taken with
  | zero =>
    refine ⟨[], ?_, fun hturns => absurd hturns (Nat.not_lt_zero _)⟩
    rw [List.append_nil]
    exact h
  | succ turns ih =>
    unfold Session.runInputs
    split
    · rename_i hnone
      exact ⟨[], by rwa [List.append_nil], fun _ _ _ => hnone⟩
    rename_i i s' hnext
    dsimp only
    generalize (if s.keepsTimers i = true then s'.connectionStamp else stamp) = armed
    let next : Session := { s'.react i with connectionStamp := armed }
    obtain ⟨hsame, -, -⟩ := (takes_nextInput? hnext).same
    have hconnection : next.connection = (s.connection.step s'.moment i).1 := by
      show (s'.react i).connection = _
      rw [connection_react, hsame]
    have hhears : Hears socket s₀ given (taken ++ [(s'.moment, i)]) next :=
      (h.react hnext).aside rfl rfl
    have hnextReady : next.connection.Ready := by
      rw [hconnection]
      exact Connection.ready_step hready _ _
    have hnextSound : next.connection.heartbeat.Sound := by
      rw [hconnection]
      exact (Connection.beats_step _ _ _).sound hsound
    obtain ⟨more, hmore, hall⟩ := ih hhears hnextReady hnextSound
    refine ⟨(s'.moment, i) :: more, by simpa using hmore, fun hturns hholds hend => ?_⟩
    have hlater : next.connection.Throughout (·.Holds socket) more := by
      rw [hconnection]
      exact hholds.tail
    -- the socket is still held when the next input is taken, or at the end
    have hstill : next.connection.Holds socket := by
      cases more with
      | cons x rest => exact hlater.head
      | nil =>
        rw [hmore.connection, List.append_nil, ← hhears.connection] at hend
        exact hend
    have hless : next.toTake socket < s.toTake socket :=
      toTake_react_lt hready hsound hholds.head (draws_nextInput? hready hholds.head hnext) hstill
    exact hall (by omega) hlater hend

/-! ## What a session does by itself -/

/-- Two sessions agree on the connection and on the network. -/
structure Apart (s s' : Session) : Prop where
  /-- The connection is the same. -/
  connection : s'.connection = s.connection
  /-- So is the network. -/
  network : s'.network = s.network

theorem apart_wake (s : Session) (t : Task) : Apart s (s.wake t) := by
  unfold wake
  split <;> exact ⟨rfl, rfl⟩

theorem apart_releaseClient (s : Session) : Apart s s.releaseClient := by
  unfold releaseClient
  split
  · obtain ⟨hconnection, hnetwork⟩ :=
      apart_wake { s with commandsOpen := false }.dropBridge .connection
    exact ⟨hconnection, hnetwork⟩
  · exact ⟨rfl, rfl⟩

theorem apart_obey (s : Session) (w : Watch) (r : MonitorRequest) : Apart s (s.obey w r).2 := by
  have henqueue : ∀ x : Command, Apart s (s.enqueue x) := fun x => by
    obtain ⟨hconnection, hnetwork⟩ := apart_wake { s with inbox := s.inbox ++ [x] } .connection
    exact ⟨hconnection, hnetwork⟩
  unfold obey
  split
  · cases r <;> exact henqueue _
  · exact ⟨rfl, rfl⟩

section

variable {P : Session → Prop}
  (hreact : ∀ {s s' : Session} {i : Input}, P s → s.nextInput? = some (i, s') → P (s'.react i))
  (hapart : ∀ {s s' : Session}, P s → Apart s s' → P s')
include hreact hapart

omit hreact in
theorem kept_runWatch (stamp turns : Nat) (w : Watch) {s : Session} (h : P s) :
    P (runWatch stamp turns w s) := by
  induction turns generalizing w s with
  | zero => exact hapart h ⟨rfl, rfl⟩
  | succ turns ih =>
    unfold runWatch
    split
    · dsimp only
      split
      · exact ih _ h
      · exact ih _ (hapart h (apart_obey ..))
    · exact hapart h ⟨rfl, rfl⟩

theorem kept_runInputs (stamp turns : Nat) {s : Session} (h : P s) :
    P (runInputs stamp turns s) := by
  induction turns generalizing s with
  | zero => exact h
  | succ turns ih =>
    unfold runInputs
    split
    · exact h
    · rename_i hnext
      exact ih (hapart (hreact h hnext) ⟨rfl, rfl⟩)

theorem kept_runTask (t : Task) {s : Session} (h : P s) : P (s.runTask t) := by
  have harmed : P { s with armed := s.armed + 1 } := hapart h ⟨rfl, rfl⟩
  cases t with
  | connection =>
    exact hapart (kept_runInputs hreact hapart s.armed turnLimit harmed) (apart_releaseClient _)
  | monitor =>
    show P s.runMonitor
    unfold runMonitor
    split
    · exact h
    · exact kept_runWatch hapart _ _ _ harmed
  | burst timer => exact hapart h ⟨rfl, rfl⟩

theorem kept_runReady (turns : Nat) {s : Session} (h : P s) : P (runReady turns s) := by
  induction turns generalizing s with
  | zero => exact h
  | succ turns ih =>
    unfold runReady
    split
    · exact h
    · rename_i t rest _
      have hpopped : P { s with ready := rest } := hapart h ⟨rfl, rfl⟩
      exact ih (kept_runTask hreact hapart t hpopped)

/-- **What every input keeps, and all that goes on beside the connection and the network, is kept
while the clock runs.** -/
theorem kept_advance {s : Session} (h : P s) (span : Nat) : P (s.advance span) := by
  have hfire : ∀ {s : Session}, P s → P s.fireDue := by
    intro s h
    refine List.foldlRecOn (motive := P) _ _ h fun s h t _ => hapart h (apart_wake s t.task)
  unfold advance
  generalize s.now + span = deadline
  generalize s.now = now
  fun_induction advanceFrom deadline now s with
  | case1 now s hnone => exact hapart h ⟨rfl, rfl⟩
  | case2 now s due hdue hlater ih =>
    have hcome : P { s with now := due } := hapart h ⟨rfl, rfl⟩
    exact ih (kept_runReady hreact hapart turnLimit (hfire hcome))
  | case3 now s due hdue hlate => exact hapart h ⟨rfl, rfl⟩

end

/-- **Whatever a session does while the clock runs is heard.** -/
theorem Hears.advance {s₀ s : Session} {socket : SocketNumber} {given : List Incoming}
    {taken : List (Moment × Input)} (h : Hears socket s₀ given taken s) (span : Nat) :
    ∃ more, Hears socket s₀ given (taken ++ more) (s.advance span) := by
  refine kept_advance (P := fun s => ∃ more, Hears socket s₀ given (taken ++ more) s)
    ?_ ?_ ⟨[], by rwa [List.append_nil]⟩ span
  · rintro s s' i ⟨more, hmore⟩ hnext
    have hnextHears := hmore.react hnext
    rw [List.append_assoc] at hnextHears
    exact ⟨_, hnextHears⟩
  · rintro s s' ⟨more, hmore⟩ hapart
    exact ⟨more, hmore.aside hapart.connection (by unfold unread; rw [hapart.network])⟩

end Session
end LiveSync
