import LiveSync.Proofs.Connection.Deeds
import LiveSync.Proofs.Registry.Callers

/-!
# What a reaction can be

Every reaction of the connection to an input is one of a few kinds, as far as callers,
subscriptions and frames are concerned.  `Connection.Reaction` lists them, each with the deeds it
consists of and with all that is known when it happens; `reaction_step` proves that there is no
other.  What holds of the kinds one by one holds of every step.

* `caller?` — who calls, if the input is a call that is taken.
* `Stays`, `Ending` — what becomes of the socket and of the attempt.
* `Reaction` — the kinds.
* `reacts_commandOffline`, `reacts_commandConnected`, `reacts_receive`, … — the parts of a step.
* `reaction_step` — every step is of one of the kinds.
-/

namespace LiveSync

open LiveSync.Json

/-! ## Calls and rulings -/

/-- The caller that a command comes from. -/
def Command.caller? : Command → Option Caller
  | .emit _ _ ticket => some (ticket, .emit)
  | .subscribe _ ticket => some (ticket, .subscribe)
  | .unsubscribe _ ticket => some (ticket, .unsubscribe)
  | .info _ ticket => some (ticket, .info)
  | .connect | .disconnect | .shutdown => none

/-- Must a request go out with a change? -/
def Registry.asks (r : Registry) : Change → Bool
  | .subscribe id ticket now connected => (r.subscribe id ticket now connected).1
  | .unsubscribe id ticket now connected => (r.unsubscribe id ticket now connected).1
  | _ => false

/-- The calls that change the registry: the change, and the request that may go out with it. -/
inductive Moment.Calls (m : Moment) (connected : Bool) :
    Input → Registry.Change → Operation → String → Prop where
  /-- To be subscribed. -/
  | subscribe (id : String) (ticket : Ticket) : Calls m connected (.command (.subscribe id ticket))
      (.subscribe id ticket m.now connected) .subscribe id
  /-- To have a subscription released. -/
  | unsubscribe (id : String) (ticket : Ticket) :
      Calls m connected (.command (.unsubscribe id ticket))
        (.unsubscribe id ticket m.now connected) .unsubscribe id

namespace Connection

instance (c : Connection) : Decidable c.AttemptDue :=
  inferInstanceAs (Decidable (_ ∧ _ ∧ _))

/-- The command that is taken: none is, once the connection has stopped and while an attempt is
due. -/
def taken? (c : Connection) : Input → Option Command
  | .command x => if c.stopped ∨ c.AttemptDue then none else some x
  | _ => none

/-- The caller whose command is taken. -/
def caller? (c : Connection) (i : Input) : Option Caller :=
  (c.taken? i).bind Command.caller?

theorem taken?_command {c : Connection} (hr : c.stopped = false) (hd : ¬c.AttemptDue)
    (x : Command) : c.taken? (.command x) = some x :=
  if_neg (by simp [hr, hd])

/-- The entity whose subscription the server refuses. -/
def refused? (c : Connection) : Input → Option String
  | .received (.ok (.text frame)) =>
    match Frame.decode frame with
    | .error _ => none
    | .ok e =>
      let payload := c.normalizer.inbound e.data
      if e.event = EventName.subscribeAck ∧ (payload.getString? "error").isSome then
        Payload.entityId? payload
      else none
  | _ => none

/-- What the server may do to the registry. -/
inductive Rules (c : Connection) (i : Input) : Registry.Change → Prop where
  /-- It acknowledges a subscription. -/
  | acknowledge (id : String) (watchers : List Value) : Rules c i (.acknowledge id watchers)
  /-- It refuses one. -/
  | reject (id why : String) (h : c.refused? i = some id) : Rules c i (.reject id why)
  /-- It releases one. -/
  | release (id : String) : Rules c i (.release id)
  /-- It reports watchers. -/
  | setWatchers (id : String) (watchers : List Value) : Rules c i (.setWatchers id watchers)

/-- A frame of the heartbeat, in either direction, on the socket of the connection. -/
def IsChatter (c : Connection) (e : Effect) : Prop :=
  ∃ socket envelope fault, c.socket = some socket ∧
    (envelope.event = EventName.ping ∨ envelope.event = EventName.pong) ∧
    e = .frame socket envelope fault

/-! ## The socket and the attempt -/

/-- The connection, or the effort to get one, goes on. -/
structure Stays (c : Connection) (i : Input) (c' : Connection) : Prop where
  /-- The socket is the same. -/
  socket : c'.socket = c.socket
  /-- A handshake was under way, or its socket was opened just now. -/
  handshake : ∀ socket deadline, c'.attempt = some (.handshaking socket deadline) →
    c.attempt = some (.handshaking socket deadline) ∨ i = .opened (.ok socket)
  /-- Who is at rest now was at rest. -/
  rest : c'.AtRest → c.AtRest

theorem Stays.of_same {c c' : Connection} {i : Input} (hsocket : c'.socket = c.socket)
    (hattempt : c'.attempt = c.attempt) (hstate : c'.state = c.state) : c.Stays i c' where
  socket := hsocket
  handshake := fun _ _ ha => Or.inl (hattempt ▸ ha)
  rest := fun hr => by unfold AtRest at hr ⊢; rwa [← hstate]

theorem Stays.refl (c : Connection) (i : Input) : c.Stays i c :=
  .of_same rfl rfl rfl

/-- How a reaction ends: the connection goes on, or it is given up. -/
inductive Ending (c : Connection) (i : Input) (c' : Connection) : List Deed → Prop where
  /-- It goes on. -/
  | stays (h : c.Stays i c') : Ending c i c' []
  /-- It is given up. -/
  | retreat {rest : List Deed} (h : Retreat c' rest) : Ending c i c' rest

/-- How a request ends: it is written and the connection goes on, or it meets a fault and the
connection is given up. -/
inductive Sent (c : Connection) (i : Input) (c' : Connection) :
    Option Fault → List Deed → Prop where
  /-- It is written. -/
  | written (h : c.Stays i c') : Sent c i c' none []
  /-- It meets a fault. -/
  | lost (fault : Fault) {rest : List Deed} (h : Retreat c' rest) : Sent c i c' (some fault) rest

/-! ## The kinds of reactions -/

/-- The kinds of reactions: what comes in, the connection afterwards, and what was done. -/
inductive Reaction (c : Connection) (m : Moment) : Input → Connection → List Deed → Prop where
  /-- Nobody calls, and no subscription is touched unless the connection is given up. -/
  | quiet {i : Input} {c' : Connection} {frames : List Effect} {rest : List Deed}
      (hcaller : c.caller? i = none) (hframes : ∀ e ∈ frames, c.IsChatter e)
      (hend : c.Ending i c' rest) : Reaction c m i c' (frames.map .message ++ rest)
  /-- A caller gets its answer at once. -/
  | told {i : Input} {c' : Connection} {ticket : Ticket} {a : Answer}
      (hcaller : c.caller? i = some (ticket, a.kind)) (hstays : c.Stays i c') :
      Reaction c m i c' [.message (.reply ticket a)]
  /-- An event is sent for a caller, who is told what came of it. -/
  | emitted {event : String} {payload : Value} {ticket : Ticket} {c' : Connection}
      {socket : SocketNumber} {envelope : Envelope} {fault : Option Fault}
      {outcome : Except Fault Unit} {rest : List Deed}
      (hcaller : c.caller? (.command (.emit event payload ticket)) = some (ticket, .emit))
      (hs : c.socket = some socket)
      (hend : c.Ending (.command (.emit event payload ticket)) c' rest) :
      Reaction c m (.command (.emit event payload ticket)) c'
        (.message (.frame socket envelope fault) :: .message (.reply ticket (.emitted outcome)) ::
          rest)
  /-- A call is taken without a connection; at rest, nobody waits to be subscribed. -/
  | queued {i : Input} {c' : Connection} {x : Registry.Change} {operation : Operation} {id : String}
      (hcall : m.Calls false i x operation id) (hcaller : c.caller? i = x.caller?)
      (hs : c.socket = none) (hstays : c.Stays i c') (hrest : c.AtRest → operation = .unsubscribe) :
      Reaction c m i c' [.change x]
  /-- A call is taken on a connection, and nothing has to be sent. -/
  | called {i : Input} {c' : Connection} {x : Registry.Change} {operation : Operation} {id : String}
      {socket : SocketNumber} (hcall : m.Calls true i x operation id)
      (hcaller : c.caller? i = x.caller?) (hs : c.socket = some socket)
      (hasks : c.registry.asks x = false) (hstays : c.Stays i c') : Reaction c m i c' [.change x]
  /-- A call is taken on a connection, and its request is sent. -/
  | asked {i : Input} {c' : Connection} {x : Registry.Change} {operation : Operation} {id : String}
      {socket : SocketNumber} {fault : Option Fault} {rest : List Deed}
      (hcall : m.Calls true i x operation id) (hcaller : c.caller? i = x.caller?)
      (hs : c.socket = some socket) (hasks : c.registry.asks x = true)
      (hsent : c.Sent i c' fault rest) :
      Reaction c m i c' (.change x :: .message (c.requestFrame socket operation id fault) :: rest)
  /-- The server answers a request, or reports watchers. -/
  | ruled {i : Input} {c' : Connection} {x : Registry.Change} (hrules : c.Rules i x)
      (hcaller : c.caller? i = none) (hc : c.state = .connected) (hstays : c.Stays i c') :
      Reaction c m i c' [.change x]
  /-- Overdue requests are given up. -/
  | expired {c' : Connection} (hc : c.state = .connected)
      (hstays : c.Stays .acknowledgementDue c') :
      Reaction c m .acknowledgementDue c' [.change (.expire m.now)]
  /-- A caller disconnects. -/
  | left {c' : Connection} {frames : List Effect} {rest : List Deed}
      (hcaller : c.caller? (.command .disconnect) = none) (hfarewell : c.Farewell frames)
      (hretreat : Retreat c' rest) :
      Reaction c m (.command .disconnect) c' (frames.map .message ++ rest)
  /-- The connection stops for good. -/
  | stopped {i : Input} {c' : Connection} {frames : List Effect} (hcaller : c.caller? i = none)
      (hrunning : c.stopped = false) (hstopped : c'.stopped = true) (hfarewell : c.Farewell frames)
      (hsocket : c'.socket = none) (hattempt : c'.attempt = none) :
      Reaction c m i c' (frames.map .message ++ [.change (.clear .cancelled)])
  /-- A handshake is complete, and the subscriptions that waited are asked for. -/
  | established {item : Except Fault Incoming} {c' : Connection} {socket : SocketNumber}
      {deadline : Nat} {socketId : Option String} {asking : List Deed}
      (hattempt : c.attempt = some (.handshaking socket deadline))
      (hjudge : Turn.judge item = .established socketId)
      (hasking : (c.established socket socketId m.now).Asking socket
        (c.registry.reissue m.now).1 c' asking) :
      Reaction c m (.received item) c' (.change (.reissue m.now) :: asking)

end Connection

namespace Turn

open Connection

/-- From one point of a turn to a later one, the connection reacts to an input. -/
def Reacts (t : Turn) (i : Input) (t' : Turn) : Prop :=
  ∃ deeds, Does t t' deeds ∧ t.conn.Reaction t.moment i t'.conn deeds

theorem caller?_command {c : Connection} (hr : c.stopped = false) (hd : ¬c.AttemptDue)
    (x : Command) : c.caller? (.command x) = x.caller? := by
  simp [caller?, taken?_command hr hd]

section

variable {t t' : Turn} {i : Input}

theorem reacts_stays (hcaller : t.conn.caller? i = none) (hdoes : Does t t' [])
    (hstays : t.conn.Stays i t'.conn) : Reacts t i t' :=
  ⟨[], hdoes, @Reaction.quiet _ _ _ _ [] [] hcaller nofun (.stays hstays)⟩

theorem reacts_retreat (hcaller : t.conn.caller? i = none) (h : Retreats t t') :
    Reacts t i t' := by
  obtain ⟨deeds, hdoes, hretreat⟩ := h
  exact ⟨deeds, hdoes, @Reaction.quiet _ _ _ _ [] deeds hcaller nofun (.retreat hretreat)⟩

theorem reacts_tearDown (hcaller : t.conn.caller? i = none) (hr : t.conn.stopped = false) :
    Reacts t i t.tearDown := by
  obtain ⟨frames, hfarewell, hdoes⟩ := does_tearDown t
  refine ⟨_, hdoes, .stopped hcaller hr ?_ hfarewell ?_ ?_⟩
  · rw [conn_tearDown]
    rfl
  · simp [conn_tearDown, tornDown]
  · simp [conn_tearDown, tornDown]

theorem reacts_tellStanding {entity : String} {ticket : Ticket}
    (hcaller : t.conn.caller? i = some (ticket, .info)) :
    Reacts t i (t.tellStanding entity ticket) :=
  ⟨_, does_answer .., .told hcaller (.refl _ _)⟩

end

/-! ## Commands -/

theorem reacts_beginConnect {t : Turn} (hs : t.conn.state.isActive = false) {i : Input}
    (hcaller : t.conn.caller? i = none) : Reacts t i t.beginConnect := by
  unfold beginConnect
  split
  · exact reacts_stays hcaller (does_publish ..) (.refl _ _)
  · refine reacts_stays hcaller (Does.of_same (by simp) (by simp)) ⟨by simp, ?_, fun _ => hs⟩
    exact fun _ _ ha => Or.inl (by simpa using ha)

section

variable {t : Turn} (h : t.conn.Ready)
include h

theorem reacts_commandOffline (hc : t.conn.state ≠ .connected) (hr : t.conn.stopped = false)
    (hd : ¬t.conn.AttemptDue) (x : Command) : Reacts t (.command x) (t.commandOffline x) := by
  have hcaller := caller?_command hr hd x
  have hs := h.noSocket hc
  cases x with
  | connect =>
    dsimp only [commandOffline]
    split
    · rename_i hs
      exact reacts_beginConnect (by rw [hs]; rfl) hcaller
    · rename_i hs
      exact reacts_beginConnect (by rw [hs]; rfl) hcaller
    · exact reacts_stays hcaller (Does.of_same rfl rfl) (.refl _ _)
  | disconnect =>
    dsimp only [commandOffline]
    split
    · exact reacts_stays hcaller (Does.of_same rfl rfl) (.refl _ _)
    · exact reacts_retreat hcaller (retreats_goDisconnected t)
  | emit event payload ticket => exact ⟨_, does_answer .., .told hcaller (.refl _ _)⟩
  | subscribe entity ticket =>
    dsimp only [commandOffline]
    split
    · rename_i hactive
      refine ⟨_, does_change t (.subscribe entity ticket t.moment.now false),
        .queued (.subscribe entity ticket) hcaller hs (.of_same rfl rfl rfl) fun hrest => ?_⟩
      exact absurd (hactive.symm.trans hrest) nofun
    · exact ⟨_, does_answer .., .told hcaller (.refl _ _)⟩
  | unsubscribe entity ticket =>
    exact ⟨_, does_change t (.unsubscribe entity ticket t.moment.now false),
      .queued (.unsubscribe entity ticket) hcaller hs (.of_same rfl rfl rfl) fun _ => rfl⟩
  | info entity ticket => exact reacts_tellStanding hcaller
  | shutdown => exact reacts_tearDown hcaller hr

end

section

variable {t : Turn} {socket : SocketNumber} (hs : t.conn.socket = some socket)
  (hattempt : t.conn.attempt = none)
include hs hattempt

theorem reacts_emitFor {event : String} {payload : Value} {ticket : Ticket}
    (hcaller : t.conn.caller? (.command (.emit event payload ticket)) = some (ticket, .emit)) :
    Reacts t (.command (.emit event payload ticket)) (t.emitFor event payload ticket) := by
  have hsend := does_send hs event payload
  have hconn := conn_send t event payload
  unfold emitFor
  generalize t.send event payload = sent at hsend hconn ⊢
  obtain ⟨outcome, sent⟩ := sent
  have hanswered := hsend.trans (does_answer sent ticket (.emitted outcome))
  have hsame : (sent.answer ticket (.emitted outcome)).conn = t.conn := hconn
  dsimp only
  split
  · obtain ⟨rest, hlost, hretreat⟩ := retreats_lose (t := sent.answer ticket _)
      (by rw [hsame]; exact hattempt) { message := "Send failed" } false
    exact ⟨_, hanswered.trans hlost, .emitted hcaller hs (.retreat hretreat)⟩
  · exact ⟨_, hanswered, .emitted hcaller hs (.stays (hsame ▸ .refl _ _))⟩

/-- A call on a connection: the registry changes, and the request goes out if it asks for one. -/
theorem reacts_requestAfter {i : Input} {x : Registry.Change} {operation : Operation} {id : String}
    (hcall : t.moment.Calls true i x operation id) (hcaller : t.conn.caller? i = x.caller?) :
    Reacts t i (t.requestAfter (t.conn.registry.asks x, t.conn.registry.apply x) operation id) := by
  have hchange := does_change t x
  unfold requestAfter
  dsimp only
  cases hasks : t.conn.registry.asks x with
  | false => exact ⟨_, hchange, .called hcall hcaller hs hasks (.of_same rfl rfl rfl)⟩
  | true =>
    have hrequest := does_request (t := t.setRegistry (t.conn.registry.apply x)) hs hattempt
      operation id
    rcases hrequest with ⟨hdoes, hconn⟩ | ⟨fault, rest, hdoes, hretreat⟩
    · refine ⟨_, hchange.trans hdoes, .asked hcall hcaller hs hasks (.written ?_)⟩
      rw [if_pos rfl, hconn]
      exact .of_same rfl rfl rfl
    · exact ⟨_, hchange.trans hdoes, .asked hcall hcaller hs hasks (.lost fault hretreat)⟩

end

section

variable {t : Turn} (h : t.conn.Ready) (hc : t.conn.state = .connected)
include h hc

theorem reacts_commandConnected (x : Command) :
    Reacts t (.command x) (t.commandConnected x) := by
  have hr := h.running (by rw [hc]; decide)
  have hcaller := caller?_command (c := t.conn) hr (by simp [AttemptDue, hc]) x
  have hattempt := h.noAttempt hc
  obtain ⟨socket, hs⟩ := Option.isSome_iff_exists.1 (h.socket.2 hc)
  cases x with
  | connect => exact reacts_stays hcaller (Does.of_same rfl rfl) (.refl _ _)
  | disconnect =>
    obtain ⟨frames, hfarewell, hclosed⟩ := does_closeGracefully hs
    let left := t.closeGracefully.publish EventName.disconnect
      (DisconnectReason.toValue { message := "Client disconnected" })
    have hleft : Does t.closeGracefully left [] := does_publish ..
    obtain ⟨rest, hgone, hretreat⟩ := retreats_goDisconnected left
    exact ⟨_, hclosed.trans (hleft.trans hgone), .left hcaller hfarewell hretreat⟩
  | emit event payload ticket => exact reacts_emitFor hs hattempt hcaller
  | subscribe entity ticket =>
    exact reacts_requestAfter hs hattempt (.subscribe entity ticket) hcaller
  | unsubscribe entity ticket =>
    exact reacts_requestAfter hs hattempt (.unsubscribe entity ticket) hcaller
  | info entity ticket => exact reacts_tellStanding hcaller
  | shutdown => exact reacts_tearDown hcaller hr

end

/-! ## Attempts -/

section

variable {t : Turn}

theorem reacts_attemptFailed (hs : t.conn.socket = none) {i : Input}
    (hcaller : t.conn.caller? i = none) (f : Fault) : Reacts t i (t.attemptFailed f) :=
  reacts_retreat hcaller (retreats_attemptFailed hs f)

theorem reacts_beginAttempt (t : Turn) :
    Reacts t .attempt t.beginAttempt := by
  unfold beginAttempt
  split
  · exact reacts_retreat rfl (Retreats.published (retreats_goDisconnected _))
  · exact reacts_stays rfl (Does.of_same rfl rfl) ⟨rfl, nofun, id⟩

theorem reacts_establish {socket : SocketNumber} {deadline : Nat}
    (hattempt : t.conn.attempt = some (.handshaking socket deadline))
    {item : Except Fault Incoming} {socketId : Option String}
    (hjudge : judge item = .established socketId) :
    Reacts t (.received item) (t.establish socket socketId) := by
  obtain ⟨asking, hasked, hasking⟩ := does_establish t socket socketId
  exact ⟨_, hasked, .established hattempt hjudge hasking⟩

theorem reacts_shakeHands (hs : t.conn.socket = none) {socket : SocketNumber} {deadline : Nat}
    (hattempt : t.conn.attempt = some (.handshaking socket deadline))
    (item : Except Fault Incoming) : Reacts t (.received item) (t.shakeHands socket item) := by
  unfold shakeHands
  split
  · exact reacts_stays rfl (Does.of_same rfl rfl) (.refl _ _)
  · rename_i hjudge
    exact reacts_establish hattempt hjudge
  · exact reacts_attemptFailed hs rfl _

end

/-! ## Frames of an established connection -/

/-- From one point of a turn to a later one the connection goes on: it follows the server, or
answers its heartbeat. -/
structure Absorbs (t : Turn) (i : Input) (t' : Turn) : Prop where
  /-- The socket is the same. -/
  socket : t'.conn.socket = t.conn.socket
  /-- So is the attempt. -/
  attempt : t'.conn.attempt = t.conn.attempt
  /-- So is the state. -/
  state : t'.conn.state = t.conn.state
  /-- Frames of the heartbeat are written, or the registry follows the server. -/
  deeds :
    (∃ frames : List Effect, (∀ e ∈ frames, t.conn.IsChatter e) ∧
      Does t t' (frames.map .message)) ∨
    ∃ x, t.conn.Rules i x ∧ Does t t' [.change x]

namespace Absorbs

variable {t t' t'' : Turn} {i : Input}

/-- What leaves the registry alone, and neither answers nor writes. -/
theorem of_same (hsocket : t'.conn.socket = t.conn.socket)
    (hattempt : t'.conn.attempt = t.conn.attempt) (hstate : t'.conn.state = t.conn.state)
    (hdoes : Does t t' []) : Absorbs t i t' :=
  ⟨hsocket, hattempt, hstate, Or.inl ⟨[], nofun, hdoes⟩⟩

theorem refl (t : Turn) : Absorbs t i t :=
  of_same rfl rfl rfl (Does.of_same rfl rfl)

/-- The registry follows the server. -/
theorem of_ruling {x : Registry.Change} (hrules : t.conn.Rules i x)
    (hdoes : Does t t' [.change x]) (hconn : t'.conn = { t.conn with
      registry := (t.conn.registry.apply x).2 }) : Absorbs t i t' :=
  ⟨by rw [hconn], by rw [hconn], by rw [hconn]; rfl, Or.inr ⟨x, hrules, hdoes⟩⟩

/-- What follows neither touches the registry nor answers nor writes. -/
theorem after (h : Absorbs t i t') (hsocket : t''.conn.socket = t'.conn.socket)
    (hattempt : t''.conn.attempt = t'.conn.attempt) (hstate : t''.conn.state = t'.conn.state)
    (hdoes : Does t' t'' []) : Absorbs t i t'' := by
  refine ⟨hsocket.trans h.socket, hattempt.trans h.attempt, hstate.trans h.state, ?_⟩
  rcases h.deeds with ⟨frames, hframes, hbefore⟩ | ⟨x, hrules, hbefore⟩
  · exact Or.inl ⟨frames, hframes, by simpa using hbefore.trans hdoes⟩
  · exact Or.inr ⟨x, hrules, hbefore.trans hdoes⟩

theorem reacts (h : Absorbs t i t') (hc : t.conn.state = .connected)
    (hcaller : t.conn.caller? i = none) : Reacts t i t' := by
  have hstays : t.conn.Stays i t'.conn := .of_same h.socket h.attempt h.state
  rcases h.deeds with ⟨frames, hframes, hdoes⟩ | ⟨x, hrules, hdoes⟩
  · exact ⟨_, by simpa using hdoes, by simpa using Reaction.quiet hcaller hframes (.stays hstays)⟩
  · exact ⟨_, hdoes, .ruled hrules hcaller hc hstays⟩

end Absorbs

theorem absorbs_send {t : Turn} {socket : SocketNumber} (hs : t.conn.socket = some socket)
    {event : String} (hevent : event = EventName.ping ∨ event = EventName.pong) {i : Input}
    (payload : Value) : Absorbs t i (t.send event payload).2 := by
  have hconn := conn_send t event payload
  refine ⟨by rw [hconn], by rw [hconn], by rw [hconn], Or.inl ⟨[_], ?_, does_send hs event payload⟩⟩
  intro e he
  rw [List.mem_singleton.1 he]
  exact ⟨socket, _, _, hs, hevent, rfl⟩

theorem absorbs_onPong (t : Turn) {i : Input} (payload : Value) :
    Absorbs t i (t.onPong payload) := by
  unfold onPong
  dsimp only
  split
  · exact .of_same rfl rfl rfl (Does.of_same rfl (by simp))
  · exact .of_same rfl rfl rfl (Does.of_same rfl rfl)

theorem absorbs_onSubscribeAck {t : Turn} {frame : String} {e : Envelope}
    (hdecode : Frame.decode frame = .ok e) (hevent : e.event = EventName.subscribeAck) :
    Absorbs t (.received (.ok (.text frame)))
      (t.onSubscribeAck (t.conn.normalizer.inbound e.data)) := by
  unfold onSubscribeAck
  split
  · exact .refl t
  · rename_i entity hentity
    split
    · rename_i why hwhy
      have hrefused : t.conn.refused? (.received (.ok (.text frame))) = some entity := by
        simp [refused?, hdecode, hevent, hwhy, hentity]
      refine (Absorbs.of_ruling (.reject entity why hrefused)
        (does_change t (.reject entity why)) rfl).after ?_ ?_ ?_ ?_
      · rfl
      · rfl
      · rfl
      · exact does_publish ..
    · exact .of_ruling (.acknowledge entity _) (does_change t (.acknowledge entity _)) rfl

theorem absorbs_onUnsubscribeAck (t : Turn) {i : Input} (payload : Value) :
    Absorbs t i (t.onUnsubscribeAck payload) := by
  unfold onUnsubscribeAck
  split
  · exact .refl t
  · exact .of_ruling (.release _) (does_change t (.release _)) rfl

theorem absorbs_onWatchersChanged (t : Turn) {i : Input} (payload : Value) :
    Absorbs t i (t.onWatchersChanged payload) := by
  unfold onWatchersChanged
  split
  · exact .of_ruling (.setWatchers _ _) (does_change t (.setWatchers _ _)) rfl
  · exact .refl t

theorem absorbs_onConnect (t : Turn) {i : Input} (payload : Value) :
    Absorbs t i (t.onConnect payload) := by
  unfold onConnect
  split
  · exact .refl t
  · exact .of_same rfl rfl rfl (Does.of_same rfl (by simp))

theorem absorbs_absorb {t : Turn} {socket : SocketNumber} (hs : t.conn.socket = some socket)
    {frame : String} {e : Envelope} (hdecode : Frame.decode frame = .ok e) :
    Absorbs t (.received (.ok (.text frame)))
      (t.absorb e.event (t.conn.normalizer.inbound e.data)) := by
  unfold absorb
  split
  · exact absorbs_send hs (Or.inr rfl) _
  split
  · exact absorbs_onPong t _
  split
  · rename_i hevent
    exact absorbs_onSubscribeAck hdecode hevent
  split
  · exact absorbs_onUnsubscribeAck t _
  split
  · exact absorbs_onWatchersChanged t _
  split
  · exact absorbs_onConnect t _
  · exact .refl t

theorem Absorbs.route {t t' : Turn} {i : Input} (h : Absorbs t i t') (event : String)
    (payload : Value) : Absorbs t i (t'.route event payload) := by
  let offered : Turn := { t' with conn := { t'.conn with
    dedup := (t'.conn.dedup.offer event payload t'.moment.now).2 } }
  have hoffered : Absorbs t i offered := h.after rfl rfl rfl (Does.of_same rfl rfl)
  unfold Turn.route
  dsimp only
  split
  · exact hoffered
  · exact hoffered.after rfl rfl rfl (does_publish ..)

section

variable {t : Turn} (h : t.conn.Ready) (hc : t.conn.state = .connected)
include h hc

theorem reacts_lose {i : Input} (hcaller : t.conn.caller? i = none) (reason : DisconnectReason)
    (ended : Bool) : Reacts t i (t.lose reason ended) :=
  reacts_retreat hcaller (retreats_lose (h.noAttempt hc) reason ended)

theorem reacts_receive (item : Except Fault Incoming) :
    Reacts t (.received item) (t.receive item) := by
  have hattempt := h.noAttempt hc
  obtain ⟨socket, hs⟩ := Option.isSome_iff_exists.1 (h.socket.2 hc)
  unfold receive
  split
  · unfold onFrame
    split
    · exact reacts_stays rfl (Does.of_same rfl rfl) (.refl _ _)
    · rename_i e hdecode
      unfold onEvent
      split
      · exact reacts_retreat rfl (Retreats.published
          (retreats_lose (t := t.publish EventName.connectError _) hattempt _ true))
      split
      · exact reacts_lose h hc rfl _ _
      · exact ((absorbs_absorb hs hdecode).route e.event _).reacts hc rfl
  · exact reacts_lose h hc rfl _ _
  · rename_i f
    exact reacts_retreat rfl
      (Retreats.published (retreats_lose (t := t.publishFault f) hattempt _ false))

/-! ## Timers -/

theorem reacts_beat : Reacts t .heartbeatDue t.beat := by
  have hattempt := h.noAttempt hc
  obtain ⟨socket, hs⟩ := Option.isSome_iff_exists.1 (h.socket.2 hc)
  have hpolled : Does t t.polled [] := Does.of_same rfl rfl
  have hprobed : Does t t.probed [] := Does.of_same rfl (by simp [probed, polled])
  rcases beat_eq t with ⟨-, heq⟩ | ⟨seq, -, hsent⟩ | ⟨-, message, reason, heq⟩
  · rw [heq]
    exact reacts_stays rfl hpolled (.of_same rfl rfl rfl)
  · have hsend := hprobed.trans (does_send (t := t.probed) hs EventName.ping
      (Heartbeat.pingPayload seq))
    have hconn := conn_send t.probed EventName.ping (Heartbeat.pingPayload seq)
    have hchatter : ∀ e ∈ [Effect.frame socket ⟨EventName.ping, t.probed.conn.normalizer.outbound
        (Heartbeat.pingPayload seq)⟩ (t.probed.moment.sendFault t.probed.sends)],
        t.conn.IsChatter e := by
      intro e he
      rw [List.mem_singleton.1 he]
      exact ⟨socket, _, _, hs, Or.inl rfl, rfl⟩
    rcases hsent with heq | ⟨reason, heq⟩
    · rw [heq]
      refine ⟨_, hsend, @Reaction.quiet _ _ _ _ [_] [] rfl hchatter (.stays ?_)⟩
      rw [hconn]
      exact .of_same rfl rfl rfl
    · rw [heq]
      obtain ⟨rest, hlost, hretreat⟩ :=
        retreats_lose (t := (t.probed.send EventName.ping (Heartbeat.pingPayload seq)).2)
          (by rw [hconn]; exact hattempt) reason false
      exact ⟨_, hsend.trans hlost,
        @Reaction.quiet _ _ _ _ [_] rest rfl hchatter (.retreat hretreat)⟩
  · rw [heq]
    have htold : Does t (t.polled.publishError message true) [] :=
      (Does.of_same rfl rfl : Does t t.polled []).trans (does_publish ..)
    refine reacts_retreat rfl (Retreats.after htold (by simp) (retreats_lose ?_ reason false))
    exact hattempt

omit h in
theorem reacts_expireRequests : Reacts t .acknowledgementDue t.expireRequests := by
  have hconn := (expireRequests_eq t).1
  exact ⟨_, does_expireRequests t, .expired hc (by rw [hconn]; exact .of_same rfl rfl rfl)⟩

end

/-! ## Every input -/

section

variable {t : Turn} (h : t.conn.Ready)
include h

omit h in
/-- An input that is no command, and to which nothing happens. -/
theorem reacts_nothing {i : Input} (hi : ∀ x, i ≠ .command x) : Reacts t i t := by
  refine reacts_stays ?_ (Does.of_same rfl rfl) (.refl _ _)
  cases i with
  | command x => exact absurd rfl (hi x)
  | _ => rfl

theorem reacts_stepConnected (hc : t.conn.state = .connected) (i : Input) :
    Reacts t i (t.stepConnected i) := by
  unfold stepConnected
  split
  · exact reacts_commandConnected h hc _
  · exact reacts_tearDown rfl (h.running (by rw [hc]; decide))
  · exact reacts_receive h hc _
  · exact reacts_beat h hc
  · exact reacts_expireRequests hc
  · rename_i hcommand _ _ _ _
    exact reacts_nothing fun x hx => hcommand x hx

theorem reacts_stepIdle (hs : t.conn.state.isActive = false) (hr : t.conn.stopped = false)
    (i : Input) : Reacts t i (t.stepIdle i) := by
  have hc : t.conn.state ≠ .connected := fun hc => absurd (hc ▸ hs) (by decide)
  have hd : ¬t.conn.AttemptDue := by
    rintro ⟨hw | hw, -⟩
    · exact absurd (hw ▸ hs) (by decide)
    · exact absurd (hw ▸ hs) (by decide)
  unfold stepIdle
  split
  · exact reacts_commandOffline h hc hr hd _
  · exact reacts_tearDown rfl hr
  · rename_i hcommand _
    exact reacts_nothing fun x hx => hcommand x hx

theorem reacts_stepBackoff (hc : t.conn.state ≠ .connected) (hr : t.conn.stopped = false)
    (hretry : t.conn.retryAt ≠ none) (i : Input) : Reacts t i (t.stepBackoff i) := by
  have hd : ¬t.conn.AttemptDue := fun hd => hretry hd.2.1
  unfold stepBackoff
  split
  · exact reacts_commandOffline h hc hr hd _
  · exact reacts_tearDown rfl hr
  · exact reacts_stays rfl (Does.of_same rfl rfl) (.of_same rfl rfl rfl)
  · rename_i hcommand _ _
    exact reacts_nothing fun x hx => hcommand x hx

theorem reacts_stepAttempt (hs : t.conn.state = .connecting ∨ t.conn.state = .reconnecting)
    (hr : t.conn.stopped = false) (hretry : t.conn.retryAt = none) (i : Input) :
    Reacts t i (t.stepAttempt i) := by
  have hc : t.conn.state ≠ .connected := by rcases hs with hs | hs <;> rw [hs] <;> decide
  have hsocket := h.noSocket hc
  have hdue : t.conn.attempt = none → Reacts t i t := by
    intro hattempt
    cases i with
    | command x =>
      have htaken : t.conn.taken? (.command x) = none :=
        if_pos (Or.inr ⟨hs, hretry, hattempt⟩)
      exact reacts_stays (by simp [caller?, htaken]) (Does.of_same rfl rfl) (.refl _ _)
    | _ => exact reacts_nothing nofun
  unfold stepAttempt
  split
  · exact reacts_beginAttempt t
  · rename_i hattempt
    exact hdue hattempt
  · rename_i hattempt
    exact reacts_commandOffline h hc hr (fun hd => absurd (hattempt.symm.trans hd.2.2) nofun) _
  · exact reacts_tearDown rfl hr
  · refine reacts_stays rfl (Does.of_same rfl ?_) ⟨rfl, nofun, id⟩
    simp [dial]
  · refine reacts_stays rfl (Does.of_same rfl rfl) ⟨rfl, fun _ _ ha => Or.inr ?_, id⟩
    rw [(Attempt.handshaking.inj (Option.some.inj ha)).1]
  · exact reacts_attemptFailed hsocket rfl _
  · exact reacts_attemptFailed hsocket rfl _
  · rename_i hattempt
    exact reacts_shakeHands hsocket hattempt _
  · exact reacts_attemptFailed hsocket rfl _
  · rename_i hnone _ hcommand _ _ _ _ _ _ _
    refine reacts_nothing fun x hx => ?_
    cases ha : t.conn.attempt with
    | none => exact hnone ha
    | some a => exact hcommand x a hx ha

theorem reacts_step (i : Input) : Reacts t i (t.step i) := by
  by_cases hr : t.conn.stopped = true
  · have hcaller : t.conn.caller? i = none := by
      cases i with
      | command x =>
        have htaken : t.conn.taken? (.command x) = none := if_pos (Or.inl hr)
        simp [caller?, htaken]
      | _ => rfl
    unfold step
    rw [if_pos hr]
    exact reacts_stays hcaller (Does.of_same rfl rfl) (.refl _ _)
  · have hrunning : t.conn.stopped = false := by simpa using hr
    have hwaiting : t.conn.state = .connecting ∨ t.conn.state = .reconnecting →
        Reacts t i (t.step i) := by
      intro hs
      have hc : t.conn.state ≠ .connected := by rcases hs with hs | hs <;> rw [hs] <;> decide
      by_cases hretry : t.conn.retryAt = none
      · rw [step_waiting hrunning hs hretry]
        exact reacts_stepAttempt h hs hrunning hretry i
      · rw [step_backoff hrunning hs hretry]
        exact reacts_stepBackoff h hc hrunning hretry i
    have hidle : t.conn.state.isActive = false → Reacts t i (t.step i) := by
      intro hs
      rw [step_idle hrunning hs]
      exact reacts_stepIdle h hs hrunning i
    cases hs : t.conn.state with
    | disconnected => exact hidle (by rw [hs]; rfl)
    | connecting => exact hwaiting (Or.inl hs)
    | connected =>
      rw [step_connected h hs]
      exact reacts_stepConnected h hs i
    | reconnecting => exact hwaiting (Or.inr hs)
    | failed => exact hidle (by rw [hs]; rfl)

end

end Turn

namespace Connection

/-- **Every step is one of the reactions**: the registry and the messages are those of its deeds. -/
theorem reaction_step {c : Connection} (h : c.Ready) (m : Moment) (i : Input) :
    ∃ deeds, c.Reaction m i (c.step m i).1 deeds ∧
      (c.step m i).1.registry = (c.registry.perform deeds).2 ∧
      (c.step m i).2.filter Effect.isMessage = (c.registry.perform deeds).1 := by
  obtain ⟨deeds, hdoes, hr⟩ := Turn.reacts_step (t := { conn := c, moment := m }) h i
  exact ⟨deeds, hr, hdoes.registry, hdoes.messages⟩

end Connection
end LiveSync
