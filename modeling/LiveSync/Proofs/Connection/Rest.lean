import LiveSync.Proofs.Connection.Dialling
import LiveSync.Proofs.Credential

/-!
# A connection that stopped stays at rest

An explicit disconnect, a refused credential and the last failed retry all bring the connection to
rest.  At rest it neither writes a frame nor asks for a socket, whatever comes in, until a caller
asks to connect and there is a usable token.

* `Stops` — the inputs after which the connection has to be at rest.
* `atRest_of_stops` — after them it is.
* `quiet_run` — at rest it stays quiet.
* `stop_is_final` — both together, and what every socket is asked for with.
* `dial_with_expired` — why the token need not be usable any more when the socket is asked for.
-/

namespace LiveSync

open LiveSync.Json

namespace Turn

@[simp] theorem state_goDisconnected (t : Turn) : t.goDisconnected.conn.state = .disconnected := by
  simp [Connection.withdrawn]

theorem state_lose_ended (t : Turn) (reason : DisconnectReason) :
    (t.lose reason true).conn.state = .disconnected := by
  obtain ⟨t', -, -, heq⟩ := lose_eq t reason true
  rw [heq, if_pos rfl, state_goDisconnected]

theorem state_attemptFailed {f : Fault} (hf : f.isRecoverable = false) (t : Turn) :
    (t.attemptFailed f).conn.state = .disconnected := by
  obtain ⟨t', -, -, heq⟩ := attemptFailed_eq t f
  rw [heq, hf, if_neg (by decide), state_goDisconnected]

@[simp] theorem state_tearDown (t : Turn) : t.tearDown.conn.state = .disconnected := by
  rw [conn_tearDown]
  exact Connection.state_entered _ _

theorem judge_closed {reason : DisconnectReason}
    (h : DisconnectReason.endsSession reason.message = true) :
    judge (.ok (.closed reason)) =
      .failed (.authentication ("Server refused the session: " ++ reason.text)) := by
  unfold judge
  exact if_pos h

theorem judge_connectError {frame : String} {e : Envelope} (hd : Frame.decode frame = .ok e)
    (he : e.event = EventName.connectError) :
    judge (.ok (.text frame)) =
      .failed (.authentication (textField e.data "message" "Connection refused by server")) := by
  unfold judge
  simp only [hd]
  rw [he, if_neg (by decide), if_pos rfl]

end Turn

namespace Connection

/-- There is no connection, and none is wanted. -/
def AtRest (c : Connection) : Prop :=
  c.state.isActive = false

/-- The connection listens to a socket: its own, or that of an attempt. -/
def Listens (c : Connection) : Prop :=
  c.state = .connected ∨ ∃ socket deadline, c.attempt = some (.handshaking socket deadline)

/-- An attempt is due. -/
def AttemptDue (c : Connection) : Prop :=
  (c.state = .connecting ∨ c.state = .reconnecting) ∧ c.retryAt = none ∧ c.attempt = none

/-- The inputs that end all efforts to be connected. -/
inductive Stops (c : Connection) (m : Moment) : Input → Prop where
  /-- A caller disconnects, in whatever state.  Where an attempt is due it begins first, and no
  command is taken before that. -/
  | disconnect (hd : ¬c.AttemptDue) : Stops c m (.command .disconnect)
  /-- The transport refuses a socket for good. -/
  | openRefused {deadline : Option Nat} {f : Fault} (ha : c.attempt = some (.opening deadline))
      (hf : f.isRecoverable = false) : Stops c m (.opened (.error f))
  /-- The socket fails for good during the handshake. -/
  | handshakeRefused {socket : SocketNumber} {deadline : Nat} {f : Fault}
      (ha : c.attempt = some (.handshaking socket deadline)) (hf : f.isRecoverable = false) :
      Stops c m (.received (.error f))
  /-- The server refuses the credential. -/
  | connectError {frame : String} {e : Envelope} (hl : c.Listens)
      (hd : Frame.decode frame = .ok e) (he : e.event = EventName.connectError) :
      Stops c m (.received (.ok (.text frame)))
  /-- The socket is closed for a reason that ends the session. -/
  | closed {reason : DisconnectReason} (hl : c.Listens)
      (hr : DisconnectReason.endsSession reason.message = true) :
      Stops c m (.received (.ok (.closed reason)))
  /-- The server disconnects for a reason that ends the session. -/
  | disconnected {frame : String} {e : Envelope} (hc : c.state = .connected)
      (hd : Frame.decode frame = .ok e) (he : e.event = EventName.disconnect)
      (hr : DisconnectReason.endsSession
        (Turn.textField (c.normalizer.inbound e.data) "reason" "server disconnect") = true) :
      Stops c m (.received (.ok (.text frame)))
  /-- An attempt is due and there is no usable token. -/
  | noToken {f : Fault} (ha : c.AttemptDue) (hf : Credential.usable m.token m.seconds = .error f) :
      Stops c m .attempt
  /-- Nothing is left to try. -/
  | failed {i : Input} (hs : (c.step m i).1.state = .failed) : Stops c m i

/-- The connection takes up a command to connect. -/
def Accepts (c : Connection) (m : Moment) (i : Input) : Prop :=
  i = .command .connect ∧ (c.state = .disconnected ∨ c.state = .failed) ∧ c.stopped = false ∧
    ∃ token, Credential.usable m.token m.seconds = .ok token

/-- Somewhere in a run a command to connect is taken up. -/
def Resumes (c : Connection) (inputs : List (Moment × Input)) : Prop :=
  ∃ before m i after, inputs = before ++ (m, i) :: after ∧ (c.run before).1.Accepts m i

end Connection

namespace Turn

open Connection

/-- Wherever a command is taken without a connection, it is handled the same way. -/
theorem step_command {t : Turn} (hr : t.conn.stopped = false) (hc : t.conn.state ≠ .connected)
    (hd : ¬t.conn.AttemptDue) (c : Command) : t.step (.command c) = t.commandOffline c := by
  have hwaiting : t.conn.state = .connecting ∨ t.conn.state = .reconnecting →
      t.step (.command c) = t.commandOffline c := by
    intro hs
    by_cases hretry : t.conn.retryAt = none
    · rw [step_waiting hr hs hretry]
      unfold stepAttempt
      cases ha : t.conn.attempt with
      | none => exact absurd ⟨hs, hretry, ha⟩ hd
      | some a => rfl
    · rw [step_backoff hr hs hretry]
      rfl
  cases hs : t.conn.state with
  | disconnected => rw [step_idle hr (by rw [hs]; rfl)]; rfl
  | connecting => exact hwaiting (Or.inl hs)
  | connected => exact absurd hs hc
  | reconnecting => exact hwaiting (Or.inr hs)
  | failed => rw [step_idle hr (by rw [hs]; rfl)]; rfl

/-- A disconnect leads to rest. -/
theorem state_disconnect {t : Turn} (h : t.conn.Ready) (hd : ¬t.conn.AttemptDue) :
    (t.step (.command .disconnect)).conn.state = .disconnected := by
  by_cases hr : t.conn.stopped = true
  · unfold step
    rw [if_pos hr]
    exact h.stopped hr
  · have hrunning : t.conn.stopped = false := by simpa using hr
    by_cases hc : t.conn.state = .connected
    · rw [step_connected h hc]
      exact state_goDisconnected _
    · rw [step_command hrunning hc hd]
      dsimp only [commandOffline]
      split
      · assumption
      · exact state_goDisconnected t

/-- A failed handshake that cannot be tried again leads to rest. -/
theorem state_judged {t : Turn} (h : t.conn.Ready) {socket : SocketNumber} {deadline : Nat}
    (ha : t.conn.attempt = some (.handshaking socket deadline)) {item : Except Fault Incoming}
    {f : Fault} (hj : judge item = .failed f) (hf : f.isRecoverable = false) :
    (t.step (.received item)).conn.state = .disconnected := by
  rw [step_attempt h ha]
  unfold stepAttempt
  rw [ha]
  show (t.shakeHands socket item).conn.state = .disconnected
  unfold shakeHands
  rw [hj]
  exact state_attemptFailed hf t

theorem receive_text (t : Turn) {frame : String} {e : Envelope}
    (hd : Frame.decode frame = .ok e) :
    t.receive (.ok (.text frame)) = t.onEvent e.event (t.conn.normalizer.inbound e.data) := by
  unfold receive onFrame
  simp only [hd]

/-! ## The end of the session -/

theorem state_receive_connectError (t : Turn) {frame : String} {e : Envelope}
    (hd : Frame.decode frame = .ok e) (he : e.event = EventName.connectError) :
    (t.receive (.ok (.text frame))).conn.state = .disconnected := by
  rw [receive_text t hd]
  unfold onEvent
  rw [if_pos he, state_lose_ended]

theorem state_receive_disconnect (t : Turn) {frame : String} {e : Envelope}
    (hd : Frame.decode frame = .ok e) (he : e.event = EventName.disconnect)
    (hr : DisconnectReason.endsSession
      (textField (t.conn.normalizer.inbound e.data) "reason" "server disconnect") = true) :
    (t.receive (.ok (.text frame))).conn.state = .disconnected := by
  rw [receive_text t hd]
  unfold onEvent
  rw [he, if_neg (by decide), if_pos rfl]
  dsimp only
  rw [hr, state_lose_ended]

theorem state_receive_closed (t : Turn) {reason : DisconnectReason}
    (hr : DisconnectReason.endsSession reason.message = true) :
    (t.receive (.ok (.closed reason))).conn.state = .disconnected := by
  unfold receive
  dsimp only
  rw [hr, state_lose_ended]

end Turn

namespace Connection

/-- What holds no command to connect resumes nothing. -/
theorem not_resumes {c : Connection} {inputs : List (Moment × Input)}
    (h : ∀ x ∈ inputs, x.2 ≠ .command .connect) : ¬c.Resumes inputs := by
  rintro ⟨before, m, i, after, rfl, hi, -⟩
  exact h (m, i) (by simp) hi

/-! ## Coming to rest -/

theorem atRest_of_disconnected {c : Connection} (h : c.state = .disconnected) : c.AtRest := by
  unfold AtRest
  rw [h]
  rfl

/-- After every input that stops a connection it is at rest. -/
theorem atRest_of_stops {c : Connection} (h : c.Ready) {m : Moment} {i : Input}
    (hs : c.Stops m i) : (c.step m i).1.AtRest := by
  let t : Turn := { conn := c, moment := m }
  have hready : t.conn.Ready := h
  have hrest : ∀ {i}, (t.step i).conn.state = .disconnected → (c.step m i).1.AtRest :=
    atRest_of_disconnected
  cases hs with
  | disconnect hd => exact hrest (Turn.state_disconnect hready hd)
  | openRefused ha hf =>
    refine hrest ?_
    rw [Turn.step_attempt hready ha]
    unfold Turn.stepAttempt
    rw [show t.conn.attempt = _ from ha]
    exact Turn.state_attemptFailed hf t
  | handshakeRefused ha hf => exact hrest (Turn.state_judged hready ha rfl hf)
  | connectError hl hd he =>
    rcases hl with hc | ⟨socket, deadline, ha⟩
    · refine hrest ?_
      rw [Turn.step_received hready hc]
      exact Turn.state_receive_connectError t hd he
    · exact hrest (Turn.state_judged hready ha (Turn.judge_connectError hd he) rfl)
  | closed hl hr =>
    rcases hl with hc | ⟨socket, deadline, ha⟩
    · refine hrest ?_
      rw [Turn.step_received hready hc]
      exact Turn.state_receive_closed t hr
    · exact hrest (Turn.state_judged hready ha (Turn.judge_closed hr) rfl)
  | disconnected hc hd he hr =>
    refine hrest ?_
    rw [Turn.step_received hready hc]
    exact Turn.state_receive_disconnect t hd he hr
  | noToken ha hf =>
    obtain ⟨hs, hretry, hnone⟩ := ha
    refine hrest ?_
    have hrunning := h.running (by rcases hs with hs | hs <;> rw [hs] <;> decide)
    rw [Turn.step_waiting (t := t) hrunning hs hretry]
    unfold Turn.stepAttempt
    rw [show t.conn.attempt = _ from hnone]
    show t.beginAttempt.conn.state = .disconnected
    unfold Turn.beginAttempt
    rw [show Credential.usable t.moment.token t.moment.seconds = _ from hf]
    exact Turn.state_goDisconnected _
  | failed hs =>
    unfold AtRest
    rw [hs]
    rfl

/-! ## Staying at rest -/

theorem state_of_atRest {c : Connection} (h : c.AtRest) :
    c.state = .disconnected ∨ c.state = .failed := by
  unfold AtRest at h
  cases hs : c.state with
  | disconnected => exact Or.inl rfl
  | failed => exact Or.inr rfl
  | connecting => exact absurd (hs ▸ h) nofun
  | connected => exact absurd (hs ▸ h) nofun
  | reconnecting => exact absurd (hs ▸ h) nofun

/-- At rest a step writes nothing and asks for nothing, and it leaves the connection at rest,
unless a command to connect is taken up. -/
theorem quiet_step {c : Connection} (h : c.Ready) (hrest : c.AtRest) {m : Moment} {i : Input}
    (hi : ¬c.Accepts m i) :
    (∀ e ∈ (c.step m i).2, e.isTraffic = false) ∧ (c.step m i).1.AtRest := by
  let t : Turn := { conn := c, moment := m }
  suffices hstep : (t.step i).traffic = t.traffic ∧ (t.step i).conn.AtRest by
    refine ⟨fun e he => ?_, hstep.2⟩
    have hnone : (t.step i).traffic = [] := hstep.1
    have := List.filter_eq_nil_iff.1 hnone e he
    simpa using this
  have hsame : t.traffic = t.traffic ∧ t.conn.AtRest := ⟨rfl, hrest⟩
  by_cases hr : c.stopped = true
  · unfold Turn.step
    rwa [if_pos hr]
  · have hrunning : t.conn.stopped = false := by simpa using hr
    have hstate : c.state = .disconnected ∨ c.state = .failed := state_of_atRest hrest
    have hsocket : t.conn.socket = none := h.noSocket fun hc => by
      rcases hstate with hs | hs <;> exact absurd (hs.symm.trans hc) (by decide)
    have hdown : t.tearDown.traffic = t.traffic ∧ t.tearDown.conn.AtRest := by
      refine ⟨?_, atRest_of_disconnected (Turn.state_tearDown t)⟩
      rw [Turn.traffic_tearDown, hsocket]
      rfl
    rw [Turn.step_idle (t := t) hrunning hrest]
    cases i with
    | command command =>
      have hcommand : (t.commandOffline command).traffic = t.traffic ∧
          (t.commandOffline command).conn.AtRest := by
        cases command with
        | connect =>
          have htoken : ∃ f, Credential.usable m.token m.seconds = .error f := by
            cases hu : Credential.usable m.token m.seconds with
            | error f => exact ⟨f, rfl⟩
            | ok token => exact absurd ⟨rfl, hstate, hrunning, token, hu⟩ hi
          obtain ⟨f, hf⟩ := htoken
          have hrefused : t.beginConnect = t.publishFault f := by
            unfold Turn.beginConnect
            rw [show Credential.usable t.moment.token t.moment.seconds = _ from hf]
          dsimp only [Turn.commandOffline]
          split
          · rw [hrefused]
            exact ⟨by simp, hrest⟩
          · rw [hrefused]
            exact ⟨by simp, hrest⟩
          · exact hsame
        | disconnect =>
          dsimp only [Turn.commandOffline]
          split
          · exact hsame
          · exact ⟨Turn.traffic_goDisconnected t,
              atRest_of_disconnected (Turn.state_goDisconnected t)⟩
        | emit event payload ticket => exact ⟨by simp [Turn.commandOffline], hrest⟩
        | subscribe entity ticket =>
          dsimp only [Turn.commandOffline]
          rw [if_neg (by rw [show t.conn.state.isActive = false from hrest]; decide)]
          exact ⟨by simp, hrest⟩
        | unsubscribe entity ticket => exact ⟨by simp [Turn.commandOffline], hrest⟩
        | info entity ticket => exact ⟨by simp [Turn.commandOffline, Turn.tellStanding], hrest⟩
        | shutdown => exact hdown
      exact hcommand
    | commandsClosed => exact hdown
    | _ => exact hsame

/-- At rest a run writes nothing and asks for nothing, as long as no command to connect is taken
up. -/
theorem quiet_run {c : Connection} (h : c.Ready) (hrest : c.AtRest)
    {inputs : List (Moment × Input)} (hi : ¬c.Resumes inputs) :
    ∀ e ∈ (c.run inputs).2, e.isTraffic = false := by
  induction inputs generalizing c with
  | nil => exact nofun
  | cons first rest ih =>
    obtain ⟨m, i⟩ := first
    have hfirst : ¬c.Accepts m i := fun ha => hi ⟨[], m, i, rest, rfl, ha⟩
    have hlater : ¬(c.step m i).1.Resumes rest := by
      rintro ⟨before, m', i', after, rfl, ha⟩
      exact hi ⟨(m, i) :: before, m', i', after, rfl, ha⟩
    obtain ⟨hquiet, hrest'⟩ := quiet_step h hrest hfirst
    intro e he
    rcases List.mem_append.1 he with he | he
    · exact hquiet e he
    · exact ih (Turn.ready_step (t := { conn := c, moment := m }) h i) hrest' hlater e he

/-- **A stop is final, and every dial has a usable token.**  Take any run of a connection that was
just built.  After an input that stops the connection nothing is written and no socket is asked
for until a command to connect is taken up at rest, with a usable token.  And whenever a socket is
asked for, it is asked for with a token that is trimmed, not empty and usable at the moment at
which the attempt took it.  From that moment on the attempt was ready to dial, and unless the
clock went on in between, the token is usable when it dials. -/
theorem stop_is_final (config : Config) :
    (∀ before m i after, ((Connection.new config).run before).1.Stops m i →
      ¬(((Connection.new config).run before).1.step m i).1.Resumes after →
      ∀ e ∈ ((((Connection.new config).run before).1.step m i).1.run after).2,
        e.isTraffic = false) ∧
    (∀ inputs url token, Effect.dial url token ∈ ((Connection.new config).run inputs).2 →
      ∃ before m after m₀, inputs = before ++ (m, .dial) :: after ∧
        (Connection.new config).Fetched before m₀ token ∧
        Text.trim token = token ∧ token ≠ "" ∧
        Credential.status (some token) m₀.seconds = .usable ∧
        (m.seconds ≤ m₀.seconds → Credential.status (some token) m.seconds = .usable)) := by
  constructor
  · intro before m i after hstops hno
    have hready := ready_run (ready_new config) before
    have hrest := atRest_of_stops hready hstops
    have hnext := Turn.ready_step (t := { conn := ((Connection.new config).run before).1,
                                          moment := m }) hready i
    exact quiet_run hnext hrest hno
  · intro inputs url token hdial
    have hnone : ∀ token, (Connection.new config).attempt ≠ some (.ready token) :=
      fun _ => by simp [Connection.new]
    obtain ⟨before, m, after, m₀, hinputs, hfetched⟩ := dial_fetched hnone hdial
    have husable : Credential.usable m₀.token m₀.seconds = .ok token := by
      obtain ⟨-, -, -, husable, -⟩ := hfetched
      exact husable
    obtain ⟨htrim, hne, hstatus⟩ := Credential.usable_ok husable
    exact ⟨before, m, after, m₀, hinputs, hfetched, htrim, hne, hstatus,
      fun hle => Credential.status_usable_of_le hle hstatus⟩

/-- A caller disconnects while the transport opens a socket: the token was trimmed before it was
presented, and nothing follows, although a retry and an attempt come in. -/
theorem stop_is_final_while_opening :
    let config : Config := ⟨"ws://localhost/ws", {}, {}⟩
    let m : Moment :=
      { now := 0, seconds := 0, token := some " token ", sendFault := fun _ => none, draw := 0.0 }
    let before := [(m, Input.command .connect), (m, .attempt), (m, .dial)]
    let c := ((Connection.new config).run before).1
    let after := [(m, Input.retryDue), (m, .attempt)]
    (∀ e ∈ ((c.step m (.command .disconnect)).1.run after).2, e.isTraffic = false) ∧
    ∃ before' m' after' m₀, before = before' ++ (m', .dial) :: after' ∧
      (Connection.new config).Fetched before' m₀ "token" ∧
      Text.trim "token" = "token" ∧ "token" ≠ "" ∧
      Credential.status (some "token") m₀.seconds = .usable ∧
      (m'.seconds ≤ m₀.seconds → Credential.status (some "token") m'.seconds = .usable) := by
  intro config m before c after
  have hattempt : c.attempt.isSome = true := rfl
  have hstops : c.Stops m (.command .disconnect) :=
    Stops.disconnect fun hd => absurd hattempt (by rw [hd.2.2]; nofun)
  have hno : ¬(c.step m (.command .disconnect)).1.Resumes after :=
    not_resumes (by simp [after])
  have husable : Credential.usable (some " token ") 0 = .ok "token" := by
    have htrim : Text.trim " token " = "token" := by decide +kernel
    rw [Credential.usable_of_status (by decide +kernel), htrim]
  have hdial :
      Effect.dial "ws://localhost/ws" "token" ∈ ((Connection.new config).run before).2 := by
    -- connecting says so to callers and listeners, and only then comes the dial
    refine List.mem_of_getElem? (i := 2) ?_
    simp [before, m, config, Connection.run, Connection.step, Connection.new, Connection.state,
      Turn.step, Turn.stepIdle, Turn.stepAttempt, Turn.commandOffline, Turn.beginConnect,
      Turn.beginAttempt, Turn.dial, Turn.setState, Turn.mapSnapshot, Turn.setRetry,
      Turn.publishSnapshot, Turn.publish, Turn.effect, husable]
  exact ⟨(stop_is_final config).1 before m _ after hstops hno,
    (stop_is_final config).2 before _ _ hdial⟩

/-- The token is taken at second 0, when it is usable.  A command that waits is taken up before the
socket is asked for, at second 100, and by then the token has expired. -/
theorem dial_with_expired :
    let config : Config := ⟨"ws://localhost/ws", {}, {}⟩
    -- the claims of the token are `exp` 1
    let token := "e30.eyJleHAiOjF9.c2ln"
    let m (seconds : Nat) : Moment :=
      { now := Span.ofSeconds seconds, seconds := seconds, token := some token,
        sendFault := fun _ => none, draw := 0.0 }
    let before := [(m 0, Input.command .connect), (m 0, .attempt),
      (m 100, .command (.info "X-1" 0))]
    Credential.status (some token) (m 0).seconds = .usable ∧
    (((Connection.new config).run before).1.step (m 100) .dial).2 = [.dial config.url token] ∧
    Credential.status (some token) (m 100).seconds = .expired := by
  intro config token m before
  have hstatus : Credential.status (some token) 0 = .usable := by decide +kernel
  have husable : Credential.usable (some token) 0 = .ok token := by
    have htrim : Text.trim token = token := by decide +kernel
    rw [Credential.usable_of_status hstatus, htrim]
  refine ⟨hstatus, ?_, by decide +kernel⟩
  simp [before, m, config, Connection.run, Connection.step, Connection.new, Connection.state,
    Turn.step, Turn.stepIdle, Turn.stepAttempt, Turn.commandOffline, Turn.beginConnect,
    Turn.beginAttempt, Turn.dial, Turn.setState, Turn.mapSnapshot, Turn.setRetry,
    Turn.publishSnapshot, Turn.publish, Turn.effect, Turn.tellStanding, Turn.answer, husable]

end Connection
end LiveSync
