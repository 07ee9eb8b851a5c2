import LiveSync.Proofs.Connection.Deeds

/-!
# The handshake

While a connection waits for the handshake its socket may deliver anything.  Most of it means
nothing.  The first item that means something ends the wait, and nothing before it does.

* `Handshake.Decides` — what an item says about the handshake.
* `Handshake.outcome?_judge` — the connection reads every item that way.
* `Connection.concluded` — what it makes of the outcome.
* `step_item`, `step_overdue` — the reaction to an item and to the end of the wait.
* `Handshake.LeavesOpen`, `attempt_run_leavesOpen` — what the wait survives, deadline and all.
* `Connection.Holds`, `Connection.Throughout` — the socket of a connection or of its attempt.
-/

namespace LiveSync

open LiveSync.Json

namespace Handshake

/-- How a handshake ends: with the socket id, if the server assigned one, or with a fault. -/
abbrev Outcome :=
  Except Fault (Option String)

/-- An item from the socket decides the handshake. -/
inductive Decides : Except Fault Incoming → Outcome → Prop where
  /-- The server greets the client. -/
  | greeted {frame : String} {e : Envelope} (hd : Frame.decode frame = .ok e)
      (he : e.event = EventName.connect) :
      Decides (.ok (.text frame)) (.ok (Payload.socketId? e.data))
  /-- The server refuses the credential. -/
  | refused {frame : String} {e : Envelope} (hd : Frame.decode frame = .ok e)
      (he : e.event = EventName.connectError) :
      Decides (.ok (.text frame))
        (.error (.authentication
          (Turn.textField e.data "message" "Connection refused by server")))
  /-- The socket is closed for a reason that ends the session. -/
  | ended {reason : DisconnectReason} (hr : DisconnectReason.endsSession reason.message = true) :
      Decides (.ok (.closed reason))
        (.error (.authentication ("Server refused the session: " ++ reason.text)))
  /-- The socket is closed for another reason. -/
  | closed {reason : DisconnectReason}
      (hr : DisconnectReason.endsSession reason.message = false) :
      Decides (.ok (.closed reason))
        (.error (.transport ("Connection closed during handshake: " ++ reason.text)))
  /-- The socket fails. -/
  | failed (f : Fault) : Decides (.error f) (.error f)

/-- An input during which the wait for the handshake goes on: an item that decides nothing, or a
command that does not give the attempt up. -/
inductive LeavesOpen : Input → Prop where
  /-- An item that decides nothing. -/
  | item {item : Except Fault Incoming} (h : ∀ outcome, ¬Decides item outcome) :
      LeavesOpen (.received item)
  /-- A command of a caller who still wants the connection. -/
  | command {x : Command} (hd : x ≠ .disconnect) (hs : x ≠ .shutdown) : LeavesOpen (.command x)

end Handshake

/-- The outcome that a verdict stands for, if it is one. -/
def Turn.Verdict.outcome? : Verdict → Option Handshake.Outcome
  | .goOn => none
  | .established socketId => some (.ok socketId)
  | .failed f => some (.error f)

/-- When a wait for the handshake that begins now is over. -/
def Connection.handshakeDeadline (c : Connection) (m : Moment) : Nat :=
  let timeout := c.config.timeouts.handshake
  m.now + if Span.isUnbounded timeout then Span.farFuture else timeout

/-- What a connection that waited for the handshake makes of its outcome. -/
def Connection.concluded (c : Connection) (m : Moment) (socket : SocketNumber) :
    Handshake.Outcome → Connection × List Effect
  | .ok socketId =>
    let t := Turn.establish { conn := c, moment := m } socket socketId
    (t.conn, t.effects)
  | .error f =>
    let t := Turn.attemptFailed { conn := c, moment := m } f
    (t.conn, t.effects)

/-! ## Judging an item -/

namespace Handshake

open Turn (judge)

theorem decides_of_judge {item : Except Fault Incoming} {outcome : Outcome}
    (h : (judge item).outcome? = some outcome) : Decides item outcome := by
  unfold judge at h
  split at h
  · obtain rfl := Option.some.inj h
    exact .failed _
  · split at h
    · rename_i hr
      obtain rfl := Option.some.inj h
      exact .ended hr
    · rename_i hr
      obtain rfl := Option.some.inj h
      exact .closed (by simpa using hr)
  · split at h
    · exact absurd h nofun
    · rename_i hd
      split at h
      · rename_i he
        obtain rfl := Option.some.inj h
        exact .greeted hd he
      · split at h
        · rename_i he
          obtain rfl := Option.some.inj h
          exact .refused hd he
        · exact absurd h nofun

/-- **The connection judges an item by what it says.** -/
theorem outcome?_judge {item : Except Fault Incoming} {outcome : Outcome} :
    (judge item).outcome? = some outcome ↔ Decides item outcome := by
  refine ⟨decides_of_judge, fun h => ?_⟩
  cases h with
  | greeted hd he => simp [judge, hd, he, Turn.Verdict.outcome?]
  | refused hd he => rw [Turn.judge_connectError hd he]; rfl
  | ended hr => rw [Turn.judge_closed hr]; rfl
  | closed hr => simp [judge, hr, Turn.Verdict.outcome?]
  | failed f => rfl

theorem outcome?_judge_eq_none {item : Except Fault Incoming} :
    (judge item).outcome? = none ↔ ∀ outcome, ¬Decides item outcome := by
  rw [Option.eq_none_iff_forall_ne_some]
  exact forall_congr' fun outcome => not_congr outcome?_judge

end Handshake

/-! ## The wait -/

namespace Connection

open Handshake

/-- The wait begins when there is a socket. -/
theorem step_opened {c : Connection} (h : c.Ready) {limit : Option Nat}
    (ha : c.attempt = some (.opening limit)) (m : Moment) (socket : SocketNumber) :
    c.step m (.opened (.ok socket)) =
      ({ c with attempt := some (.handshaking socket (c.handshakeDeadline m)) }, []) := by
  have hstep := Turn.step_attempt (t := { conn := c, moment := m }) h ha (.opened (.ok socket))
  unfold Turn.stepAttempt at hstep
  rw [ha] at hstep
  unfold step
  rw [hstep]
  rfl

section

variable {c : Connection} (h : c.Ready) {m : Moment} {socket : SocketNumber} {deadline : Nat}
  (ha : c.attempt = some (.handshaking socket deadline))
include h ha

/-- An item concludes the handshake or changes nothing. -/
theorem step_item (item : Except Fault Incoming) : c.step m (.received item) =
    ((Turn.judge item).outcome?.map (c.concluded m socket)).getD (c, []) := by
  have hstep : Turn.step { conn := c, moment := m } (.received item) =
      Turn.shakeHands { conn := c, moment := m } socket item := by
    rw [Turn.step_attempt h ha]
    unfold Turn.stepAttempt
    rw [ha]
  unfold step
  rw [hstep]
  unfold Turn.shakeHands
  cases Turn.judge item <;> rfl

/-- **An item that decides the handshake concludes it.** -/
theorem step_decides {item : Except Fault Incoming} {outcome : Outcome}
    (hd : Decides item outcome) : c.step m (.received item) = c.concluded m socket outcome := by
  rw [step_item h ha, outcome?_judge.2 hd]
  rfl

/-- An item that decides nothing changes nothing. -/
theorem step_undecided {item : Except Fault Incoming} (hd : ∀ outcome, ¬Decides item outcome) :
    c.step m (.received item) = (c, []) := by
  rw [step_item h ha, outcome?_judge_eq_none.2 hd]
  rfl

/-- **Without a decision in time the wait ends with a fault.** -/
theorem step_overdue : c.step m .handshakeTimedOut = c.concluded m socket (.error (.timeout
    ("Handshake timeout (" ++ Span.text c.config.timeouts.handshake ++ ")"))) := by
  have hstep := Turn.step_attempt (t := { conn := c, moment := m }) h ha .handshakeTimedOut
  unfold Turn.stepAttempt at hstep
  rw [ha] at hstep
  unfold step
  rw [hstep]
  rfl

/-- The wait goes on, and its deadline stays. -/
theorem attempt_step_leavesOpen {i : Input} (hi : LeavesOpen i) :
    (c.step m i).1.attempt = some (.handshaking socket deadline) := by
  cases hi with
  | item hd => rw [step_undecided h ha hd]; exact ha
  | @command x hd hs =>
    have hactive := (h.attempt (by rw [ha]; rfl)).1
    have hstep : Turn.step { conn := c, moment := m } (.command x) =
        Turn.commandOffline { conn := c, moment := m } x := by
      rw [Turn.step_attempt h ha]
      unfold Turn.stepAttempt
      rw [ha]
    unfold step
    rw [hstep]
    cases x with
    | connect => rcases hactive with hs | hs <;> simpa [Turn.commandOffline, hs] using ha
    | disconnect => exact absurd rfl hd
    | emit event payload ticket => exact ha
    | subscribe entity ticket =>
      dsimp only [Turn.commandOffline]
      split
      · simpa using ha
      · exact ha
    | unsubscribe entity ticket => simpa [Turn.commandOffline] using ha
    | info entity ticket => exact ha
    | shutdown => exact absurd rfl hs

/-- **Whatever comes in that decides nothing, the wait goes on and its deadline stays.** -/
theorem attempt_run_leavesOpen {inputs : List (Moment × Input)}
    (hopen : ∀ x ∈ inputs, LeavesOpen x.2) :
    (c.run inputs).1.attempt = some (.handshaking socket deadline) := by
  induction inputs generalizing c with
  | nil => exact ha
  | cons first rest ih =>
    obtain ⟨m, i⟩ := first
    obtain ⟨hfirst, hrest⟩ := List.forall_mem_cons.1 hopen
    exact ih (ready_step h m i) (attempt_step_leavesOpen h ha hfirst) hrest

end

/-! ## The socket -/

/-- The connection holds a socket: its own, or that of an attempt. -/
def Holds (c : Connection) (socket : SocketNumber) : Prop :=
  c.socket = some socket ∨ ∃ deadline, c.attempt = some (.handshaking socket deadline)

/-- Something is so whenever an input is taken. -/
def Throughout (c : Connection) (P : Connection → Prop) (inputs : List (Moment × Input)) : Prop :=
  ∀ past x rest, inputs = past ++ x :: rest → P (c.run past).1

section

variable {c : Connection} {P : Connection → Prop}

theorem throughout_append {a b : List (Moment × Input)} :
    c.Throughout P (a ++ b) ↔ c.Throughout P a ∧ (c.run a).1.Throughout P b := by
  constructor
  · refine fun h => ⟨fun past x rest heq => h past x (rest ++ b) (by simp [heq]),
      fun past x rest heq => ?_⟩
    have hpast := h (a ++ past) x rest (by simp [heq])
    rwa [run_append] at hpast
  · rintro ⟨ha, hb⟩ past x rest heq
    rcases List.append_eq_append_iff.1 heq with ⟨more, rfl, hrest⟩ | ⟨more, rfl, hrest⟩
    · rw [run_append]
      exact hb more x rest hrest
    · cases more with
      | nil =>
        have hfirst := hb [] x rest hrest.symm
        rwa [List.append_nil] at hfirst
      | cons y more =>
        obtain ⟨rfl, -⟩ := List.cons.inj hrest
        exact ha past x more rfl

theorem throughout_singleton {x : Moment × Input} (hc : P c) : c.Throughout P [x] := by
  intro past y rest heq
  cases past with
  | nil => exact hc
  | cons z past => simp at heq

theorem Throughout.head {x : Moment × Input} {rest : List (Moment × Input)}
    (h : c.Throughout P (x :: rest)) : P c :=
  h [] x rest rfl

theorem Throughout.tail {x : Moment × Input} {rest : List (Moment × Input)}
    (h : c.Throughout P (x :: rest)) : (c.step x.1 x.2).1.Throughout P rest :=
  fun past y later heq => h (x :: past) y later (congrArg (x :: ·) heq)

end

/-- Whatever decides nothing costs no socket. -/
theorem throughout_leavesOpen {c : Connection} (h : c.Ready) {socket : SocketNumber}
    {deadline : Nat} (ha : c.attempt = some (.handshaking socket deadline))
    {inputs : List (Moment × Input)} (hopen : ∀ x ∈ inputs, LeavesOpen x.2) :
    c.Throughout (·.Holds socket) inputs := by
  rintro past x rest rfl
  exact Or.inr ⟨deadline, attempt_run_leavesOpen h ha fun y hy =>
    hopen y (List.mem_append_left _ hy)⟩

section

variable {c : Connection} (h : c.Ready) {m : Moment} {socket other : SocketNumber}
include h

theorem Holds.running (hh : c.Holds socket) : c.stopped = false := by
  refine h.running ?_
  rcases hh with hs | ⟨deadline, ha⟩
  · rw [h.socket.1 (by rw [hs]; rfl)]
    decide
  · rcases (h.attempt (by rw [ha]; rfl)).1 with hs | hs <;> rw [hs] <;> decide

/-- While the connection is up a text frame is handled. -/
theorem step_frame (hs : c.socket = some socket) (m : Moment) (frame : String) :
    c.step m (.received (.ok (.text frame))) =
      let t := Turn.onFrame { conn := c, moment := m } frame
      (t.conn, t.effects) := by
  have hstep := Turn.step_received (t := { conn := c, moment := m }) h
    (h.socket.1 (by rw [hs]; rfl)) (.ok (.text frame))
  unfold step
  rw [hstep]
  rfl

omit h in
theorem not_holds_of_retreats {t t' : Turn} (hr : Turn.Retreats t t') :
    ¬t'.conn.Holds socket := by
  obtain ⟨deeds, -, hretreat⟩ := hr
  rintro (hs | ⟨deadline, ha⟩)
  · exact absurd (hretreat.socket.symm.trans hs) nofun
  · exact absurd (hretreat.attempt.symm.trans ha) nofun

/-- A wait that ended without a decision ends the attempt. -/
theorem not_holds_overdue {deadline : Nat} (ha : c.attempt = some (.handshaking socket deadline)) :
    ¬(c.step m .handshakeTimedOut).1.Holds other := by
  have hc := h.ne_connected ha
  rw [step_overdue h ha]
  exact not_holds_of_retreats
    (Turn.retreats_attemptFailed (t := { conn := c, moment := m }) (h.noSocket hc) _)

/-- A socket that fails is given up. -/
theorem not_holds_fault (hh : c.Holds socket) (f : Fault) :
    ¬(c.step m (.received (.error f))).1.Holds other := by
  rcases hh with hs | ⟨deadline, ha⟩
  · have hc := h.socket.1 (by rw [hs]; rfl)
    have hstep := Turn.step_received (t := { conn := c, moment := m }) h hc (.error f)
    unfold step
    rw [hstep]
    exact not_holds_of_retreats (Turn.retreats_lose (h.noAttempt hc) _ false)
  · have hc := h.ne_connected ha
    rw [step_decides h ha (.failed f)]
    exact not_holds_of_retreats
      (Turn.retreats_attemptFailed (t := { conn := c, moment := m }) (h.noSocket hc) f)

/-- When no command can follow everything is torn down. -/
theorem not_holds_commandsClosed (hh : c.Holds socket) :
    ¬(c.step m .commandsClosed).1.Holds other := by
  let t : Turn := { conn := c, moment := m }
  have hstep : t.step .commandsClosed = t.tearDown := by
    rcases hh with hs | ⟨deadline, ha⟩
    · exact Turn.step_connected h (h.socket.1 (by rw [hs]; rfl)) .commandsClosed
    · rw [Turn.step_attempt h ha]
      unfold Turn.stepAttempt
      rw [ha]
  show ¬(t.step .commandsClosed).conn.Holds other
  rw [hstep, Turn.conn_tearDown]
  rintro (hs | ⟨deadline, ha⟩)
  · exact absurd hs (by simp [tornDown])
  · exact absurd ha (by simp [tornDown])

end

end Connection
end LiveSync
