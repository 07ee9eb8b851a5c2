import LiveSync.Proofs.Connection.Dialling

/-!
# What a turn signals

Listeners are told of events, callers read snapshots, and the transport is asked for sockets.  These
signals are read off a turn here, part by part, together with the pace of the connection: its
state, the count of retries, the planned retry and the attempt that is under way.

* `signals` — the signals of a turn so far.
* `Calm` — nothing happens to the pace, and what is told tells of nothing new about it.
* `Sequel` — what follows when a connection or an attempt is given up.
* `Quits` — a stretch of a turn that ends with such a sequel.
* `quits_lose`, `quits_attemptFailed`, `quits_goDisconnected`, `quits_tearDown` — the ways there.
-/

namespace LiveSync

open LiveSync.Json

/-- Is the effect told to listeners, shown to readers or asked of the transport? -/
@[simp, reducible] def Effect.isSignal : Effect → Bool
  | .publish .. | .snapshot _ | .dial .. => true
  | .frame .. | .reply .. | .close _ | .clearListeners => false

/-- How far the efforts to be connected have come. -/
structure Pace where
  /-- The state. -/
  state : ConnectionState
  /-- The retries since the last handshake. -/
  count : Nat
  /-- When the next attempt may begin. -/
  retryAt : Option Nat
  /-- The attempt that is under way. -/
  attempt : Option Attempt
  deriving DecidableEq

namespace Pace

/-- The events that a connection publishes about itself while its pace stays. -/
def notices : List String :=
  [EventName.disconnect, EventName.connectionError, EventName.subscriptionError]

/-- What tells of nothing new about the pace. -/
inductive Plain (p : Pace) : Effect → Prop where
  /-- A snapshot in the same state, with the same count of retries. -/
  | snapshot {s : Snapshot} (hs : s.state = p.state) (ha : s.attempt = p.count) :
      Plain p (.snapshot s)
  /-- A notice about something else. -/
  | notice {event : String} {payload : Value} (he : event ∈ notices) :
      Plain p (.publish event payload)

/-- What listeners are told when a state is entered; nothing if it is the present one. -/
def changes (p : Pace) (s : ConnectionState) : List Effect :=
  if p.state = s then [] else [.publish EventName.stateChanged (Turn.stateChange s p.state)]

theorem changes_of_eq {p : Pace} {s : ConnectionState} (h : p.state = s) : p.changes s = [] :=
  if_pos h

theorem changes_of_ne {p : Pace} {s : ConnectionState} (h : p.state ≠ s) :
    p.changes s = [.publish EventName.stateChanged (Turn.stateChange s p.state)] :=
  if_neg h

/-- Only the state decides what listeners are told. -/
theorem changes_congr {p p' : Pace} (h : p'.state = p.state) (s : ConnectionState) :
    p'.changes s = p.changes s := by
  rw [changes, changes, h]

/-- What is told when a state is entered: callers can read it before listeners are told. -/
inductive Enters (p : Pace) (s : ConnectionState) : List Effect → Prop where
  /-- It is the present one. -/
  | same (h : p.state = s) : Enters p s []
  /-- It is another one. -/
  | other (h : p.state ≠ s) {shown : Snapshot} (hs : shown.state = s)
      (ha : shown.attempt = p.count) : Enters p s (.snapshot shown :: p.changes s)

theorem Plain.of_eq {p p' : Pace} {e : Effect} (h : p'.Plain e) (hs : p'.state = p.state)
    (hc : p'.count = p.count) : p.Plain e := by
  cases h with
  | snapshot hstate hcount => exact .snapshot (hstate.trans hs) (hcount.trans hc)
  | notice he => exact .notice he

theorem Enters.of_eq {p p' : Pace} {s : ConnectionState} {told : List Effect}
    (h : p'.Enters s told) (hs : p'.state = p.state) (hc : p'.count = p.count) :
    p.Enters s told := by
  cases h with
  | same h => exact .same (hs.symm.trans h)
  | other h hstate hcount =>
    rw [changes_congr hs]
    exact .other (hs ▸ h) hstate (hcount.trans hc)

/-- What follows when a connection or an attempt is given up. -/
inductive Sequel (options : Options) (p : Pace) : Pace → List Effect → Prop where
  /-- Nothing is wanted any more. -/
  | withdrawn {told : List Effect} (h : p.Enters .disconnected told) :
      Sequel options p ⟨.disconnected, p.count, none, none⟩ told
  /-- The retries are used up. -/
  | spent {told : List Effect} {limit : Nat} {error : Value}
      (hlimit : options.maxReconnectAttempts = some limit) (hle : limit ≤ p.count)
      (h : p.Enters .failed told) :
      Sequel options p ⟨.failed, p.count, none, none⟩
        (told ++ [.publish EventName.connectionError error])
  /-- One more retry is planned. -/
  | retried {due delay : Nat} {shown : Snapshot}
      (hlimit : ∀ limit, options.maxReconnectAttempts = some limit → p.count < limit)
      (hs : shown.state = .reconnecting) (ha : shown.attempt = p.count + 1) :
      Sequel options p ⟨.reconnecting, p.count + 1, some due, none⟩
        (.snapshot shown :: p.changes .reconnecting ++
          [.publish EventName.reconnectAttempt (Turn.retryNotice (p.count + 1) delay)])

theorem Sequel.of_eq {options : Options} {p p' after : Pace} {told : List Effect}
    (h : p'.Sequel options after told) (hs : p'.state = p.state) (hc : p'.count = p.count) :
    p.Sequel options after told := by
  cases h with
  | withdrawn h =>
    rw [hc]
    exact .withdrawn (h.of_eq hs hc)
  | spent hlimit hle h =>
    rw [hc] at hle ⊢
    exact .spent hlimit hle (h.of_eq hs hc)
  | retried hlimit hstate hcount =>
    rw [hc] at hlimit hcount ⊢
    rw [changes_congr hs]
    exact .retried hlimit hstate hcount

/-- What was given up is not connected. -/
theorem Sequel.ne_connected {options : Options} {p after : Pace} {told : List Effect}
    (h : p.Sequel options after told) : after.state ≠ .connected := by
  cases h <;> exact nofun

end Pace

namespace Connection

/-- The pace of a connection. -/
def pace (c : Connection) : Pace :=
  ⟨c.state, c.snapshot.attempt, c.retryAt, c.attempt⟩

/-- What a connection was built with and never changes: its settings, and how it re-cases. -/
def setup (c : Connection) : Config × Payload.Normalizer :=
  (c.config, c.normalizer)

@[simp] theorem setup_entered (c : Connection) (s : ConnectionState) :
    (c.entered s).setup = c.setup := by
  unfold entered; split <;> rfl

@[simp] theorem count_entered (c : Connection) (s : ConnectionState) :
    (c.entered s).snapshot.attempt = c.snapshot.attempt := by
  unfold entered; split <;> rfl

@[simp] theorem dedup_entered (c : Connection) (s : ConnectionState) :
    (c.entered s).dedup = c.dedup := by
  unfold entered; split <;> rfl

theorem pace_entered (c : Connection) (s : ConnectionState) :
    (c.entered s).pace = { c.pace with state := s } := by
  simp [pace]

@[simp] theorem pace_withdrawn (c : Connection) :
    c.withdrawn.pace = ⟨.disconnected, c.snapshot.attempt, none, none⟩ := by
  rw [withdrawn, pace_entered]
  rfl

theorem pace_givenUp (c : Connection) :
    c.givenUp.pace = ⟨.failed, c.snapshot.attempt, none, c.attempt⟩ := by
  rw [givenUp, pace_entered]
  rfl

theorem pace_putOff (c : Connection) (due : Nat) :
    (c.putOff due).pace = ⟨.reconnecting, c.snapshot.attempt + 1, some due, c.attempt⟩ := rfl

theorem pace_tornDown (c : Connection) :
    c.tornDown.pace = ⟨.disconnected, c.snapshot.attempt, none, none⟩ := by
  have h := pace_entered { c with
      attempt := none
      socket := none
      heartbeat := c.heartbeat.stop
      registry := (c.registry.clear .cancelled).2
      retryAt := none } .disconnected
  exact h

theorem pace_established (c : Connection) (socket : SocketNumber) (socketId : Option String)
    (now : Nat) : (c.established socket socketId now).pace = ⟨.connected, 0, none, none⟩ := by
  have h := pace_entered { c with
      socket := some socket
      attempt := none
      retryAt := none
      snapshot := { c.snapshot with socketId := socketId, attempt := 0 }
      dedup := c.dedup.clear
      heartbeat := c.heartbeat.start now } .connected
  exact h

end Connection

namespace Turn

open Connection

/-- The signals among the effects so far. -/
abbrev signals (t : Turn) : List Effect :=
  t.sift Effect.isSignal

/-- Entering a state tells what entering it tells. -/
theorem signals_setState (t : Turn) (s : ConnectionState) :
    ∃ told, (t.setState s).signals = t.signals ++ told ∧ t.conn.pace.Enters s told := by
  unfold setState
  by_cases h : t.conn.state = s
  · exact ⟨[], by simp [h], .same h⟩
  · let forget (shown : Snapshot) : Snapshot :=
      { shown with state := s, socketId := if s = .connected then shown.socketId else none }
    refine ⟨.snapshot (forget t.conn.snapshot) :: t.conn.pace.changes s, ?_,
      .other h rfl rfl⟩
    rw [Pace.changes_of_ne h]
    simp [h, forget, Connection.pace]

@[simp] theorem moment_send (t : Turn) (event : String) (payload : Value) :
    (t.send event payload).2.moment = t.moment := by
  cases h : t.conn.socket with
  | none => rw [send_of_no_socket h]
  | some socket => rw [send_of_socket h]; rfl

/-! ## Stretches of a turn that leave state and count alone -/

/-- From one point of a turn to a later one the state, the count of retries and the memory of
repetitions stay, and what is told tells of nothing new about them. -/
structure Level (t t' : Turn) : Prop where
  /-- What the connection was built with stays. -/
  setup : t'.conn.setup = t.conn.setup
  /-- The memory of repetitions stays. -/
  dedup : t'.conn.dedup = t.conn.dedup
  /-- The circumstances stay. -/
  moment : t'.moment = t.moment
  /-- The state stays. -/
  state : t'.conn.state = t.conn.state
  /-- The count of retries stays. -/
  count : t'.conn.snapshot.attempt = t.conn.snapshot.attempt
  /-- What is told is plain. -/
  signals : ∃ told, t'.signals = t.signals ++ told ∧ ∀ e ∈ told, t.conn.pace.Plain e

namespace Level

variable {t t' t'' : Turn}

/-- What tells nothing. -/
theorem of_silent (hsetup : t'.conn.setup = t.conn.setup)
    (hdedup : t'.conn.dedup = t.conn.dedup) (hmoment : t'.moment = t.moment)
    (hstate : t'.conn.state = t.conn.state)
    (hcount : t'.conn.snapshot.attempt = t.conn.snapshot.attempt)
    (hsignals : t'.signals = t.signals) : Level t t' :=
  ⟨hsetup, hdedup, hmoment, hstate, hcount, [], by rw [hsignals, List.append_nil], nofun⟩

theorem trans (h : Level t t') (h' : Level t' t'') : Level t t'' := by
  obtain ⟨told, htold, hplain⟩ := h.signals
  obtain ⟨later, hlater, hplain'⟩ := h'.signals
  refine ⟨h'.setup.trans h.setup, h'.dedup.trans h.dedup, h'.moment.trans h.moment,
    h'.state.trans h.state, h'.count.trans h.count, told ++ later, ?_, fun e he => ?_⟩
  · rw [hlater, htold, List.append_assoc]
  · rcases List.mem_append.1 he with he | he
    · exact hplain e he
    · exact (hplain' e he).of_eq h.state h.count

end Level

theorem level_notice (t : Turn) {event : String} (payload : Value) (he : event ∈ Pace.notices) :
    Level t (t.publish event payload) := by
  refine ⟨rfl, rfl, rfl, rfl, rfl, [.publish event payload], by simp, fun e hm => ?_⟩
  rw [List.mem_singleton.1 hm]
  exact .notice he

theorem level_dropAttempt (t : Turn) : Level t t.dropAttempt := by
  refine Level.of_silent (by rw [conn_dropAttempt]; rfl) (by rw [conn_dropAttempt]) ?_
    (by rw [conn_dropAttempt]; rfl) (by rw [conn_dropAttempt]) (by simp)
  unfold dropAttempt
  split <;> rfl

/-- From one point of a turn to a later one the whole pace stays, and nothing new is told. -/
structure Calm (t t' : Turn) : Prop extends Level t t' where
  /-- The planned retry stays. -/
  retryAt : t'.conn.retryAt = t.conn.retryAt
  /-- The attempt stays. -/
  attempt : t'.conn.attempt = t.conn.attempt

namespace Calm

variable {t t' t'' : Turn}

theorem pace (h : Calm t t') : t'.conn.pace = t.conn.pace := by
  unfold Connection.pace
  rw [h.state, h.count, h.retryAt, h.attempt]

/-- What tells nothing, and leaves alone what has to stay. -/
theorem of_silent (hsetup : t'.conn.setup = t.conn.setup)
    (hdedup : t'.conn.dedup = t.conn.dedup) (hmoment : t'.moment = t.moment)
    (hpace : t'.conn.pace = t.conn.pace) (hsignals : t'.signals = t.signals) : Calm t t' where
  toLevel := .of_silent hsetup hdedup hmoment (congrArg Pace.state hpace)
    (congrArg Pace.count hpace) hsignals
  retryAt := congrArg Pace.retryAt hpace
  attempt := congrArg Pace.attempt hpace

theorem refl (t : Turn) : Calm t t :=
  .of_silent rfl rfl rfl rfl rfl

theorem trans (h : Calm t t') (h' : Calm t' t'') : Calm t t'' :=
  ⟨h.toLevel.trans h'.toLevel, h'.retryAt.trans h.retryAt, h'.attempt.trans h.attempt⟩

end Calm

theorem calm_notice (t : Turn) {event : String} (payload : Value) (he : event ∈ Pace.notices) :
    Calm t (t.publish event payload) :=
  ⟨level_notice t payload he, rfl, rfl⟩

theorem calm_publishError (t : Turn) (message : String) (recoverable : Bool) :
    Calm t (t.publishError message recoverable) :=
  calm_notice t _ (by simp [Pace.notices])

theorem calm_setRegistry (t : Turn) (change : List Reply × Registry) :
    Calm t (t.setRegistry change) :=
  .of_silent rfl rfl rfl rfl (by simp)

theorem calm_answer (t : Turn) (ticket : Ticket) (a : Answer) : Calm t (t.answer ticket a) :=
  .of_silent rfl rfl rfl rfl (by simp)

theorem calm_send (t : Turn) (event : String) (payload : Value) :
    Calm t (t.send event payload).2 :=
  .of_silent (by rw [conn_send]) (by rw [conn_send]) (moment_send ..) (by rw [conn_send]) (by simp)

/-- Readers are shown the present state and count. -/
theorem calm_publishSnapshot (t : Turn) : Calm t t.publishSnapshot := by
  refine ⟨⟨rfl, rfl, rfl, rfl, rfl, [.snapshot t.conn.snapshot], by simp, fun e hm => ?_⟩,
    rfl, rfl⟩
  rw [List.mem_singleton.1 hm]
  exact .snapshot rfl rfl

/-- Readers are shown something new that is neither the state nor the count. -/
theorem calm_shown (t : Turn) {f : Snapshot → Snapshot}
    (hs : (f t.conn.snapshot).state = t.conn.state)
    (ha : (f t.conn.snapshot).attempt = t.conn.snapshot.attempt) :
    Calm t (t.mapSnapshot f).publishSnapshot := by
  have hmapped : Calm t (t.mapSnapshot f) := ⟨.of_silent rfl rfl rfl hs ha rfl, rfl, rfl⟩
  exact hmapped.trans (calm_publishSnapshot _)

theorem calm_closeSocket (t : Turn) : Calm t t.closeSocket := by
  refine .of_silent (by rw [conn_closeSocket]; rfl) (by rw [conn_closeSocket]) ?_
    (by rw [conn_closeSocket]; rfl) (by simp)
  unfold closeSocket
  split <;> rfl

theorem calm_closeGracefully (t : Turn) : Calm t t.closeGracefully := by
  have hreleased : ∀ (entities : List String) (t : Turn), Calm t (entities.foldl (fun t entity =>
      (t.send EventName.unsubscribe (Payload.ofEntity entity)).2) t) := by
    intro entities
    induction entities with
    | nil => exact Calm.refl
    | cons entity rest ih => exact fun t => (calm_send ..).trans (ih _)
  exact (hreleased t.conn.registry.activeEntities t).trans (calm_closeSocket _)

/-! ## Giving up -/

/-- From one point of a turn to a later one a connection or an attempt is given up, after plain
signals. -/
structure Quits (t t' : Turn) : Prop where
  /-- What the connection was built with stays. -/
  setup : t'.conn.setup = t.conn.setup
  /-- The memory of repetitions stays. -/
  dedup : t'.conn.dedup = t.conn.dedup
  /-- What is told is plain until the sequel. -/
  signals : ∃ ahead told, t'.signals = t.signals ++ (ahead ++ told) ∧
    (∀ e ∈ ahead, t.conn.pace.Plain e) ∧
    t.conn.pace.Sequel t.conn.config.options t'.conn.pace told

theorem Quits.after {t t' t'' : Turn} (h : Level t t') (h' : Quits t' t'') : Quits t t'' := by
  obtain ⟨before, hbefore, hplain⟩ := h.signals
  obtain ⟨ahead, told, htold, hplain', hsequel⟩ := h'.signals
  have hconfig : t'.conn.config = t.conn.config := congrArg Prod.fst h.setup
  refine ⟨h'.setup.trans h.setup, h'.dedup.trans h.dedup, before ++ ahead, told, ?_, ?_, ?_⟩
  · rw [htold, hbefore]
    simp only [List.append_assoc]
  · exact fun e he => (List.mem_append.1 he).elim (hplain e)
      fun he => (hplain' e he).of_eq h.state h.count
  · rw [← hconfig]
    exact hsequel.of_eq h.state h.count

/-- A withdrawal that starts with entering the disconnected state. -/
theorem quits_withdrawn {t t' bare : Turn} (hbare : Level t bare)
    (hsetup : t'.conn.setup = t.conn.setup) (hdedup : t'.conn.dedup = t.conn.dedup)
    (hpace : t'.conn.pace = ⟨.disconnected, t.conn.snapshot.attempt, none, none⟩)
    (hsignals : t'.signals = (bare.setState .disconnected).signals) : Quits t t' := by
  obtain ⟨ahead, hahead, hplain⟩ := hbare.signals
  obtain ⟨told, htold, henters⟩ := signals_setState bare .disconnected
  refine ⟨hsetup, hdedup, ahead, told, ?_, hplain, ?_⟩
  · rw [hsignals, htold, hahead, List.append_assoc]
  · rw [hpace]
    exact .withdrawn (henters.of_eq hbare.state hbare.count)

theorem quits_goDisconnected (t : Turn) : Quits t t.goDisconnected := by
  let failed := t.stopHeartbeat.demoteAll.setRegistry
    (t.stopHeartbeat.demoteAll.conn.registry.failSubscribers .notConnected)
  let bare := (failed.dropAttempt.closeSocket).setRetry none
  have hfailed : Level t failed := .of_silent rfl rfl rfl rfl rfl (by simp [failed])
  have hclosed : Level t failed.dropAttempt.closeSocket :=
    (hfailed.trans (level_dropAttempt failed)).trans (calm_closeSocket _).toLevel
  have hbare : Level t bare := hclosed.trans (.of_silent rfl rfl rfl rfl rfl rfl)
  refine quits_withdrawn hbare ?_ ?_ (by rw [conn_goDisconnected, pace_withdrawn]) rfl
  · rw [conn_goDisconnected, withdrawn, setup_entered]
    rfl
  · rw [conn_goDisconnected, withdrawn, dedup_entered]

theorem quits_tearDown (t : Turn) : Quits t t.tearDown := by
  let dropped := t.dropAttempt
  let left := if dropped.conn.socket.isSome then
      dropped.closeGracefully.publish EventName.disconnect
        (DisconnectReason.toValue { message := "Client shut down" })
    else dropped
  let bare := (left.stopHeartbeat.setRegistry (left.conn.registry.clear .cancelled)).setRetry none
  have hleft : Level t left := by
    refine (level_dropAttempt t).trans ?_
    dsimp only [left]
    split
    · exact (calm_closeGracefully _).toLevel.trans (level_notice _ _ (by simp [Pace.notices]))
    · exact (Calm.refl _).toLevel
  have hbare : Level t bare :=
    hleft.trans (.of_silent rfl rfl rfl rfl rfl (by simp [bare]))
  refine quits_withdrawn hbare ?_ ?_ (by rw [conn_tearDown, pace_tornDown]) ?_
  · rw [conn_tearDown, tornDown]
    exact setup_entered _ _
  · rw [conn_tearDown, tornDown]
    exact dedup_entered _ _
  · show ((bare.setState .disconnected).effect .clearListeners).signals = _
    simp

theorem quits_fail {t : Turn} {limit : Nat} (ha : t.conn.attempt = none)
    (hlimit : t.conn.config.options.maxReconnectAttempts = some limit)
    (hle : limit ≤ t.conn.snapshot.attempt) : Quits t (t.fail limit) := by
  let failed := (t.setRetry none).setRegistry
    ((t.setRetry none).conn.registry.failSubscribers .notConnected)
  have hsilent : failed.signals = t.signals := by simp [failed]
  obtain ⟨told, htold, henters⟩ := signals_setState failed .failed
  have hsignals : (t.fail limit).signals = t.signals ++ ([] ++ (told ++
      [.publish EventName.connectionError (ConnectionError.toValue
        ⟨s!"Max reconnection attempts ({limit}) reached", false⟩)])) := by
    show ((failed.setState .failed).publishError _ false).signals = _
    simp [htold, hsilent]
  refine ⟨?_, ?_, [], _, hsignals, nofun, ?_⟩
  · rw [conn_fail, givenUp, setup_entered]
    rfl
  · rw [conn_fail, givenUp, dedup_entered]
  · rw [conn_fail, pace_givenUp, ha]
    exact .spent hlimit hle (henters.of_eq rfl rfl)

/-- A retry that is planned: callers can read the new count before listeners are told of it. -/
theorem scheduleRetry_due {t : Turn} (h : t.conn.config.options.autoReconnect = true)
    (hl : t.conn.config.options.maxReconnectAttempts.filter (· ≤ t.conn.snapshot.attempt) =
      none) :
    ∃ due delay, t.scheduleRetry.conn = t.conn.putOff due ∧
      t.scheduleRetry.signals = t.signals ++ ([] ++
        (.snapshot (t.conn.putOff due).snapshot :: t.conn.pace.changes .reconnecting ++
          [.publish EventName.reconnectAttempt
            (retryNotice (t.conn.snapshot.attempt + 1) delay)])) := by
  obtain ⟨due, hconn⟩ := conn_scheduleRetry_due h hl
  let delay := t.conn.config.options.retryDelayMs t.conn.snapshot.attempt t.moment.draw
  refine ⟨due, delay, hconn, ?_⟩
  unfold scheduleRetry
  simp only [h, Bool.not_true, Bool.false_eq_true, if_false, hl, sift_publish]
  by_cases hs : t.conn.snapshot.state = .reconnecting
  · rw [Pace.changes_of_eq hs]
    simp [Connection.putOff, Connection.state, hs, delay]
  · rw [Pace.changes_of_ne hs]
    simp [Connection.putOff, Connection.pace, Connection.state, setState, hs, delay]

theorem quits_scheduleRetry {t : Turn} (ha : t.conn.attempt = none) : Quits t t.scheduleRetry := by
  cases hauto : t.conn.config.options.autoReconnect with
  | false =>
    rw [scheduleRetry_off hauto]
    exact quits_goDisconnected t
  | true =>
    cases hl : t.conn.config.options.maxReconnectAttempts.filter
        (· ≤ t.conn.snapshot.attempt) with
    | some limit =>
      obtain ⟨hlimit, hle⟩ := Option.filter_eq_some_iff.1 hl
      rw [scheduleRetry_spent hauto hl]
      exact quits_fail ha hlimit (by simpa using hle)
    | none =>
      obtain ⟨due, delay, hconn, hsignals⟩ := scheduleRetry_due hauto hl
      refine ⟨by rw [hconn]; rfl, by rw [hconn]; rfl, [], _, hsignals, nofun, ?_⟩
      rw [hconn, pace_putOff, ha]
      refine .retried (fun limit hlimit => ?_) rfl rfl
      rw [hlimit, Option.filter_eq_none_iff] at hl
      exact Nat.not_le.1 fun hle => hl limit rfl (decide_eq_true hle)

theorem quits_lose {t : Turn} (ha : t.conn.attempt = none) (reason : DisconnectReason)
    (ended : Bool) : Quits t (t.lose reason ended) := by
  let severed := t.stopHeartbeat.demoteAll.closeSocket
  let cut := severed.publish EventName.disconnect reason.toValue
  have hstill : Level t t.stopHeartbeat.demoteAll :=
    .of_silent rfl rfl rfl rfl rfl (by simp)
  have hsevered : Level t severed := hstill.trans (calm_closeSocket _).toLevel
  have hcut : Level t cut := hsevered.trans (level_notice _ _ (by simp [Pace.notices]))
  refine Quits.after hcut ?_
  cases ended with
  | false => exact quits_scheduleRetry (t := cut) (by simpa [cut, severed] using ha)
  | true => exact Quits.after (calm_publishError cut _ _).toLevel (quits_goDisconnected _)

theorem quits_attemptFailed (t : Turn) (f : Fault) : Quits t (t.attemptFailed f) := by
  let dropped := t.dropAttempt.publishFault f
  have hdropped : Level t dropped :=
    (level_dropAttempt t).trans (calm_publishError ..).toLevel
  refine Quits.after hdropped ?_
  have heq : t.attemptFailed f =
      if f.isRecoverable then dropped.scheduleRetry else dropped.goDisconnected := rfl
  rw [heq]
  cases f.isRecoverable with
  | true => exact quits_scheduleRetry (t := dropped) (by simp [dropped])
  | false => exact quits_goDisconnected dropped

end Turn
end LiveSync
