import LiveSync.Proofs.Connection.Coherence
import LiveSync.Proofs.Heartbeat.Calls

/-!
# Every step leaves a coherent connection

Each part of a step is followed from one ready connection to the next; the steps are put together
from these parts and the runs from the steps.

* `ready_lose`, `ready_attemptFailed`, `ready_tearDown` — the three ways out.
* `ready_establish` — the way in, which may fail while the subscriptions are asked for again.
* `step_idle`, `step_backoff`, `step_waiting`, `step_connected` — which part of a step reacts.
* `ready_step` — the reaction to any input.
* `run_coherent` — what holds after every run.
-/

namespace LiveSync

open LiveSync.Json

namespace Turn

open Connection

/-! ## Losing a connection, an attempt or both -/

section

variable {t : Turn} (h : t.conn.Ready)
include h

theorem ready_lose (hc : t.conn.state = .connected) (reason : DisconnectReason) (ended : Bool) :
    (t.lose reason ended).conn.Ready :=
  ready_lose_of_steady h.toSteady (h.noAttempt hc) hc (h.running (by rw [hc]; decide)) reason ended

theorem ready_tearDown : t.tearDown.conn.Ready := by
  rw [conn_tearDown]
  exact ready_tornDown h.toSteady

theorem ready_request (hc : t.conn.state = .connected) (operation : Operation) (entity : String) :
    (t.request operation entity).conn.Ready := by
  have hsent : ∀ payload, (t.send operation.name payload).2.conn.Ready := fun _ => by
    rwa [conn_send]
  rcases request_eq t operation entity with ⟨-, heq⟩ | ⟨reason, heq⟩
  · rw [heq]
    exact hsent _
  · rw [heq]
    exact ready_lose (hsent _) (by rwa [conn_send]) reason false

/-! ## Commands -/

theorem ready_beginConnect (hs : t.conn.state = .disconnected ∨ t.conn.state = .failed)
    (hr : t.conn.stopped = false) : t.beginConnect.conn.Ready := by
  unfold beginConnect
  split
  · exact h
  · have hc : t.conn.state ≠ .connected := by rcases hs with hs | hs <;> rw [hs] <;> decide
    have hidle : t.conn.state ≠ .connecting ∧ t.conn.state ≠ .reconnecting := by
      rcases hs with hs | hs <;> rw [hs] <;> decide
    have hattempt : t.conn.attempt = none := by
      cases ha : t.conn.attempt with
      | none => rfl
      | some a =>
        rcases (h.attempt (by rw [ha]; rfl)).1 with hs' | hs'
        · exact absurd hs' hidle.1
        · exact absurd hs' hidle.2
    let wiped : Connection := { t.conn with
      snapshot := { t.conn.snapshot with attempt := 0 }, retryAt := none }
    rw [conn_setState]
    show (wiped.entered .connecting).Ready
    constructor
    case toSteady =>
      have hsound : wiped.Sound := { h.toSound with }
      exact steady_entered hsound fun hd => absurd hd (by decide)
    case toCoherent =>
      exact coherent_entered (by decide) (h.noSocket hc) (h.still hc)
        (fun hr => absurd hr (by simp [wiped])) (h.queued hc) fun hs' => absurd hs' hidle.1
    case attempt => simp [wiped, hattempt]
    case stopped => simp [wiped, hr]

/-- A change of the registry while there is no connection. -/
theorem ready_apply_offline (hc : t.conn.state ≠ .connected) {x : Registry.Change}
    (hx : x.Offline) : (t.setRegistry (t.conn.registry.apply x)).conn.Ready := by
  rw [conn_setRegistry]
  exact h.setRegistry (Registry.ascending_apply h.ascending x) (Registry.timeouts_apply ..)
    (fun _ => Registry.queued_apply (h.queued hc) hx) fun hs => absurd hs hc

theorem ready_commandOffline (hc : t.conn.state ≠ .connected) (hr : t.conn.stopped = false)
    (c : Command) : (t.commandOffline c).conn.Ready := by
  cases c with
  | connect =>
    dsimp only [commandOffline]
    split
    · rename_i hs
      exact ready_beginConnect h (Or.inl hs) hr
    · rename_i hs
      exact ready_beginConnect h (Or.inr hs) hr
    · exact h
  | disconnect =>
    dsimp only [commandOffline]
    split
    · exact h
    · exact ready_goDisconnected h.toSteady
  | emit event payload ticket => exact h
  | subscribe entity ticket =>
    dsimp only [commandOffline]
    split
    · exact ready_apply_offline h hc (x := .subscribe entity ticket t.moment.now false) rfl
    · exact h
  | unsubscribe entity ticket =>
    exact ready_apply_offline h hc (x := .unsubscribe entity ticket t.moment.now false) rfl
  | info entity ticket => exact h
  | shutdown => exact ready_tearDown h

theorem ready_emitFor (hc : t.conn.state = .connected) (event : String) (payload : Value)
    (ticket : Ticket) : (t.emitFor event payload ticket).conn.Ready := by
  have hconn := conn_send t event payload
  unfold emitFor
  generalize t.send event payload = sent at hconn ⊢
  obtain ⟨outcome, t'⟩ := sent
  have hanswered : (t'.answer ticket (.emitted outcome)).conn = t.conn := hconn
  dsimp only
  split
  · exact ready_lose (hanswered ▸ h) (by rw [hanswered]; exact hc) _ false
  · exact hanswered ▸ h

/-- A change of the registry while there is a connection. -/
theorem ready_apply_connected (hc : t.conn.state = .connected) {x : Registry.Change}
    (hx : x.Online) : (t.setRegistry (t.conn.registry.apply x)).conn.Ready := by
  obtain ⟨hsubscribe, hunsubscribe⟩ := Prod.mk.inj h.timeouts
  rw [conn_setRegistry]
  exact h.setRegistry (Registry.ascending_apply h.ascending x) (Registry.timeouts_apply ..)
    (fun hs => absurd hc hs)
    fun _ => Registry.carried_apply hsubscribe hunsubscribe (h.carried hc) hx

omit h in
theorem ready_requestAfter (hc : t.conn.state = .connected)
    {change : Bool × List Reply × Registry} (hset : (t.setRegistry change.2).conn.Ready)
    (operation : Operation) (entity : String) :
    (t.requestAfter change operation entity).conn.Ready := by
  unfold requestAfter
  dsimp only
  split
  · exact ready_request hset hc operation entity
  · exact hset

theorem ready_commandConnected (hc : t.conn.state = .connected) (c : Command) :
    (t.commandConnected c).conn.Ready := by
  cases c with
  | connect => exact h
  | disconnect =>
    unfold commandConnected
    refine ready_goDisconnected ?_
    rw [conn_publish, conn_closeGracefully]
    exact { h.toSteady with }
  | emit event payload ticket => exact ready_emitFor h hc event payload ticket
  | subscribe entity ticket =>
    have hset := ready_apply_connected h hc (x := .subscribe entity ticket t.moment.now true) rfl
    exact ready_requestAfter hc hset _ _
  | unsubscribe entity ticket =>
    have hset := ready_apply_connected h hc (x := .unsubscribe entity ticket t.moment.now true) rfl
    exact ready_requestAfter hc hset _ _
  | info entity ticket => exact h
  | shutdown => exact ready_tearDown h

/-! ## Attempts -/

/-- Another stage of the attempt, where one may be under way. -/
theorem ready_setAttempt (hs : t.conn.state = .connecting ∨ t.conn.state = .reconnecting)
    (hr : t.conn.retryAt = none) (a : Attempt) :
    Ready { t.conn with attempt := some a } :=
  { h with attempt := fun _ => ⟨hs, hr⟩ }

theorem ready_beginAttempt (hs : t.conn.state = .connecting ∨ t.conn.state = .reconnecting)
    (hr : t.conn.retryAt = none) : t.beginAttempt.conn.Ready := by
  unfold beginAttempt
  split
  · exact ready_goDisconnected h.toSteady
  · exact ready_setAttempt h hs hr _

theorem ready_requestAgain (entity : String) : (t.requestAgain entity).conn.Ready := by
  unfold requestAgain
  split
  · rename_i hsocket
    exact ready_request h (h.socket.1 hsocket) .subscribe entity
  · exact h

theorem ready_requestAgain_foldl (entities : List String) :
    (entities.foldl requestAgain t).conn.Ready := by
  induction entities generalizing t with
  | nil => exact h
  | cons entity rest ih => exact ih (ready_requestAgain h entity)

theorem ready_established (hs : t.conn.state = .connecting ∨ t.conn.state = .reconnecting)
    (socket : SocketNumber) (socketId : Option String) (now : Nat) :
    (t.conn.established socket socketId now).Ready := by
  have hne : t.conn.state ≠ .connected := by rcases hs with hs | hs <;> rw [hs] <;> decide
  have hd : t.conn.state ≠ .disconnected := by rcases hs with hs | hs <;> rw [hs] <;> decide
  have hstate : (t.conn.established socket socketId now).state = .connected := state_established ..
  have hcarried := Registry.carried_reissue (h.queued hne) now
  obtain ⟨hsubscribe, hunsubscribe⟩ := Prod.mk.inj h.timeouts
  rw [hsubscribe, hunsubscribe] at hcarried
  constructor
  case toSteady =>
    have hsound : (t.conn.established socket socketId now).Sound := by
      constructor
      case interval => simpa using h.interval
      case timeouts => exact (config_established ..).symm ▸ h.timeouts
      case ascending => exact Registry.ascending_reissue h.ascending now
      case unreleased => exact unreleased_of_carried hcarried
    exact { hsound with rest := fun hc => absurd (hstate.symm.trans hc) (by decide) }
  case toCoherent =>
    constructor
    case socket => simp
    case heartbeat =>
      rw [heartbeat_established, config_established, ← h.interval,
        Heartbeat.running_start (h.still hne)]
      simp
    case retry => simp
    case socketId => exact fun hc => absurd hstate hc
    case queued => exact fun hc => absurd hstate hc
    case carried => simpa using hcarried
    case published => exact published_entered fun hc => absurd hc hne
  case attempt => simp
  case stopped => simp [h.running hd]

theorem ready_establish (hs : t.conn.state = .connecting ∨ t.conn.state = .reconnecting)
    (socket : SocketNumber) (socketId : Option String) :
    (t.establish socket socketId).conn.Ready := by
  obtain ⟨t', hconn, -, -, heq⟩ := establish_eq t socket socketId
  rw [heq]
  refine ready_requestAgain_foldl ?_ _
  rw [hconn]
  exact ready_established h hs socket socketId _

theorem ready_shakeHands (hs : t.conn.state = .connecting ∨ t.conn.state = .reconnecting)
    (socket : SocketNumber) (item : Except Fault Incoming) :
    (t.shakeHands socket item).conn.Ready := by
  unfold shakeHands
  split
  · exact h
  · exact ready_establish h hs socket _
  · exact ready_attemptFailed h hs _

/-! ## An established connection -/

theorem ready_onPing (payload : Value) : (t.onPing payload).conn.Ready := by
  unfold onPing
  rwa [conn_send]

theorem ready_onPong (payload : Value) : (t.onPong payload).conn.Ready := by
  have hbeat := h.setHeartbeat (Heartbeat.interval_onPong t.conn.heartbeat payload t.moment.now)
    (Heartbeat.takes_onPong t.conn.heartbeat payload t.moment.now).running
  unfold onPong
  generalize t.conn.heartbeat.onPong payload t.moment.now = beat at hbeat ⊢
  obtain ⟨accepted, heartbeat⟩ := beat
  dsimp only
  split
  · exact hbeat.setSnapshot rfl hbeat.socketId
  · exact hbeat

theorem ready_onSubscribeAck (hc : t.conn.state = .connected) (payload : Value) :
    (t.onSubscribeAck payload).conn.Ready := by
  unfold onSubscribeAck
  split
  · exact h
  · split
    · exact ready_apply_connected h hc (x := .reject _ _) trivial
    · exact ready_apply_connected h hc (x := .acknowledge _ _) trivial

theorem ready_onUnsubscribeAck (hc : t.conn.state = .connected) (payload : Value) :
    (t.onUnsubscribeAck payload).conn.Ready := by
  unfold onUnsubscribeAck
  split
  · exact h
  · exact ready_apply_connected h hc (x := .release _) trivial

theorem ready_onWatchersChanged (hc : t.conn.state = .connected) (payload : Value) :
    (t.onWatchersChanged payload).conn.Ready := by
  unfold onWatchersChanged
  split
  · exact ready_apply_connected h hc (x := .setWatchers _ _) trivial
  · exact h

theorem ready_onConnect (hc : t.conn.state = .connected) (payload : Value) :
    (t.onConnect payload).conn.Ready := by
  unfold onConnect
  split
  · exact h
  · exact h.setSnapshot rfl fun hs => absurd hc hs

theorem ready_absorb (hc : t.conn.state = .connected) (event : String) (payload : Value) :
    (t.absorb event payload).conn.Ready := by
  unfold absorb
  split
  · exact ready_onPing h payload
  split
  · exact ready_onPong h payload
  split
  · exact ready_onSubscribeAck h hc payload
  split
  · exact ready_onUnsubscribeAck h hc payload
  split
  · exact ready_onWatchersChanged h hc payload
  split
  · exact ready_onConnect h hc payload
  · exact h

theorem ready_route (event : String) (payload : Value) : (t.route event payload).conn.Ready := by
  unfold route
  dsimp only
  split
  · exact h.setDedup _
  · exact h.setDedup _

theorem ready_onEvent (hc : t.conn.state = .connected) (event : String) (payload : Value) :
    (t.onEvent event payload).conn.Ready := by
  have hpublished : (t.publish EventName.connectError payload).conn.Ready := h
  unfold onEvent
  split
  · exact ready_lose hpublished hc _ true
  split
  · exact ready_lose h hc _ _
  · exact ready_route (ready_absorb h hc event payload) event payload

theorem ready_receive (hc : t.conn.state = .connected) (item : Except Fault Incoming) :
    (t.receive item).conn.Ready := by
  unfold receive
  split
  · unfold onFrame
    split
    · exact h
    · exact ready_onEvent h hc _ _
  · rename_i reason
    exact ready_lose h hc reason (DisconnectReason.endsSession reason.message)
  · rename_i f
    have hpublished : (t.publishFault f).conn.Ready := h
    exact ready_lose hpublished hc _ false

/-! ## Timers -/

theorem ready_beat (hc : t.conn.state = .connected) : t.beat.conn.Ready := by
  have hinterval : t.polled.conn.heartbeat.interval = t.conn.heartbeat.interval :=
    Heartbeat.interval_poll ..
  have hrunning : (t.conn.heartbeat.poll t.moment.now).1 ≠ .expired →
      t.polled.conn.heartbeat.running = t.conn.heartbeat.running :=
    (Heartbeat.polls_poll t.conn.heartbeat t.moment.now).running
  rcases beat_eq t with ⟨ha, heq⟩ | ⟨seq, ha, hsent⟩ | ⟨-, message, reason, heq⟩
  · rw [heq]
    exact h.setHeartbeat hinterval (hrunning (by rw [ha]; nofun))
  · have hpolled : t.polled.conn.Ready :=
      h.setHeartbeat hinterval (hrunning (by rw [ha]; nofun))
    have hprobed : t.probed.conn.Ready := hpolled.setSnapshot rfl hpolled.socketId
    have hconn := conn_send t.probed EventName.ping (Heartbeat.pingPayload seq)
    rw [← hconn] at hprobed
    rcases hsent with heq | ⟨reason, heq⟩
    · rw [heq]
      exact hprobed
    · rw [heq]
      exact ready_lose hprobed (by rw [hconn]; exact hc) reason false
  · rw [heq]
    have hsteady : (t.polled.publishError message true).conn.Steady :=
      { h.toSteady with interval := hinterval.trans h.interval }
    exact ready_lose_of_steady hsteady (h.noAttempt hc) hc (h.running (by rw [hc]; decide))
      reason false

theorem ready_expireRequests (hc : t.conn.state = .connected) :
    t.expireRequests.conn.Ready := by
  rw [(expireRequests_eq t).1, ← conn_setRegistry]
  exact ready_apply_connected h hc (x := .expire t.moment.now) trivial

/-! ## Every input -/

theorem ready_stepAttempt (hs : t.conn.state = .connecting ∨ t.conn.state = .reconnecting)
    (hr : t.conn.retryAt = none) (i : Input) : (t.stepAttempt i).conn.Ready := by
  have hc : t.conn.state ≠ .connected := by rcases hs with hs | hs <;> rw [hs] <;> decide
  have hrunning : t.conn.stopped = false :=
    h.running (by rcases hs with hs | hs <;> rw [hs] <;> decide)
  unfold stepAttempt
  split
  · exact ready_beginAttempt h hs hr
  · exact h
  · exact ready_commandOffline h hc hrunning _
  · exact ready_tearDown h
  · exact ready_setAttempt h hs hr _
  · exact ready_setAttempt h hs hr _
  · exact ready_attemptFailed h hs _
  · exact ready_attemptFailed h hs _
  · exact ready_shakeHands h hs _ _
  · exact ready_attemptFailed h hs _
  · exact h

theorem ready_stepConnected (hc : t.conn.state = .connected) (i : Input) :
    (t.stepConnected i).conn.Ready := by
  unfold stepConnected
  split
  · exact ready_commandConnected h hc _
  · exact ready_tearDown h
  · exact ready_receive h hc _
  · exact ready_beat h hc
  · exact ready_expireRequests h hc
  · exact h

theorem ready_stepIdle (hc : t.conn.state ≠ .connected) (hr : t.conn.stopped = false)
    (i : Input) : (t.stepIdle i).conn.Ready := by
  unfold stepIdle
  split
  · exact ready_commandOffline h hc hr _
  · exact ready_tearDown h
  · exact h

theorem ready_stepBackoff (hc : t.conn.state ≠ .connected) (hr : t.conn.stopped = false)
    (i : Input) : (t.stepBackoff i).conn.Ready := by
  unfold stepBackoff
  split
  · exact ready_commandOffline h hc hr _
  · exact ready_tearDown h
  · exact { h with retry := nofun, attempt := fun ha => ⟨(h.attempt ha).1, rfl⟩ }
  · exact h

omit h in
/-- While a connection is wanted and no retry is put off, an attempt is under way or due. -/
theorem step_waiting (hr : t.conn.stopped = false)
    (hs : t.conn.state = .connecting ∨ t.conn.state = .reconnecting)
    (hretry : t.conn.retryAt = none) (i : Input) : t.step i = t.stepAttempt i := by
  unfold step
  rw [if_neg (by simp [hr])]
  rcases hs with hs | hs <;> simp [hs, hretry]

omit h in
theorem step_backoff (hr : t.conn.stopped = false)
    (hs : t.conn.state = .connecting ∨ t.conn.state = .reconnecting)
    (hretry : t.conn.retryAt ≠ none) (i : Input) : t.step i = t.stepBackoff i := by
  unfold step
  rw [if_neg (by simp [hr])]
  rcases hs with hs | hs <;> simp [hs, Option.isSome_iff_ne_none, hretry]

omit h in
theorem step_idle (hr : t.conn.stopped = false) (hs : t.conn.state.isActive = false) (i : Input) :
    t.step i = t.stepIdle i := by
  unfold step
  rw [if_neg (by simp [hr])]
  cases hc : t.conn.state with
  | disconnected => rfl
  | failed => rfl
  | connecting => exact absurd hs (by rw [hc]; decide)
  | connected => exact absurd hs (by rw [hc]; decide)
  | reconnecting => exact absurd hs (by rw [hc]; decide)

theorem step_attempt {a : Attempt} (ha : t.conn.attempt = some a) (i : Input) :
    t.step i = t.stepAttempt i := by
  obtain ⟨hs, hretry⟩ := h.attempt (by rw [ha]; rfl)
  exact step_waiting (h.running (by rcases hs with hs | hs <;> rw [hs] <;> decide)) hs hretry i

theorem step_connected (hc : t.conn.state = .connected) (i : Input) :
    t.step i = t.stepConnected i := by
  unfold step
  rw [if_neg (by simp [h.running (by rw [hc]; decide)])]
  simp [hc]

theorem step_received (hc : t.conn.state = .connected) (item : Except Fault Incoming) :
    t.step (.received item) = t.receive item := by
  rw [step_connected h hc]
  rfl

/-- **Every step leaves a ready connection.** -/
theorem ready_step (i : Input) : (t.step i).conn.Ready := by
  by_cases hr : t.conn.stopped = true
  · unfold step
    rwa [if_pos hr]
  · have hrunning : t.conn.stopped = false := by simpa using hr
    have hwaiting : t.conn.state = .connecting ∨ t.conn.state = .reconnecting →
        (t.step i).conn.Ready := by
      intro hs
      have hc : t.conn.state ≠ .connected := by rcases hs with hs | hs <;> rw [hs] <;> decide
      by_cases hretry : t.conn.retryAt = none
      · rw [step_waiting hrunning hs hretry]
        exact ready_stepAttempt h hs hretry i
      · rw [step_backoff hrunning hs hretry]
        exact ready_stepBackoff h hc hrunning i
    have hidle : t.conn.state = .disconnected ∨ t.conn.state = .failed →
        (t.step i).conn.Ready := by
      intro hs
      have hc : t.conn.state ≠ .connected := by rcases hs with hs | hs <;> rw [hs] <;> decide
      rw [step_idle hrunning (by rcases hs with hs | hs <;> rw [hs] <;> rfl)]
      exact ready_stepIdle h hc hrunning i
    cases hs : t.conn.state with
    | disconnected => exact hidle (Or.inl hs)
    | connecting => exact hwaiting (Or.inl hs)
    | connected =>
      rw [step_connected h hs]
      exact ready_stepConnected h hs i
    | reconnecting => exact hwaiting (Or.inr hs)
    | failed => exact hidle (Or.inr hs)

end

end Turn

namespace Connection

theorem ready_new (config : Config) : (Connection.new config).Ready := by
  have hstate : (Connection.new config).state = .disconnected := rfl
  constructor
  case toSteady =>
    have hsound : (Connection.new config).Sound := by
      constructor
      case interval => rfl
      case timeouts => rfl
      case ascending => exact List.Pairwise.nil
      case unreleased => exact nofun
    exact { hsound with rest := fun _ => ⟨rfl, rfl⟩ }
  case toCoherent =>
    constructor
    case socket =>
      rw [hstate]
      exact ⟨nofun, nofun⟩
    case heartbeat =>
      rw [hstate]
      exact ⟨nofun, fun hc => absurd hc.1 (by decide)⟩
    case retry => simp [Connection.new]
    case socketId => exact fun _ => rfl
    case queued => exact fun _ => nofun
    case carried => exact fun hc => absurd (hstate.symm.trans hc) (by decide)
    case published => rfl
  case attempt => simp [Connection.new]
  case stopped => exact fun _ => hstate

theorem ready_step {c : Connection} (h : c.Ready) (m : Moment) (i : Input) :
    (c.step m i).1.Ready :=
  Turn.ready_step (t := { conn := c, moment := m }) h i

theorem ready_run {c : Connection} (h : c.Ready) (inputs : List (Moment × Input)) :
    (c.run inputs).1.Ready := by
  induction inputs generalizing c with
  | nil => exact h
  | cons first rest ih => exact ih (ready_step h first.1 first.2)

/-- **What holds between any two turns.**  After every run of a connection that was just built,
socket, heartbeat, planned retry, socket id, subscriptions and published snapshot fit the state. -/
theorem run_coherent (config : Config) (inputs : List (Moment × Input)) :
    ((Connection.new config).run inputs).1.Coherent :=
  (ready_run (ready_new config) inputs).toCoherent

end Connection
end LiveSync
