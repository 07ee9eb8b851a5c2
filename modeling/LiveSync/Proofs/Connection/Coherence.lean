import LiveSync.Proofs.Connection.Views
import LiveSync.Proofs.Registry.Entries

/-!
# The parts of a connection agree

Between two inputs the state, the socket, the heartbeat, the retry timer, the subscriptions and
the snapshot that callers read say the same about the connection.  `Connection.Coherent` lists what
that means, and `run_coherent` proves it of every run, whatever comes in.

The proof carries a little more than the theorem says.  `Connection.Steady` holds even in the middle
of a turn; `Connection.Ready` is what a turn starts from and leaves behind; and `Connection.Cut` is
the moment after a connection was lost and before it is decided what follows.
-/

namespace LiveSync

open LiveSync.Json

namespace Connection

/-! ## What agrees with what -/

/-- The parts of a connection agree. -/
structure Coherent (c : Connection) : Prop where
  /-- A socket is held exactly while there is a connection. -/
  socket : c.socket.isSome ↔ c.state = .connected
  /-- The heartbeat runs exactly while there is a connection, unless its interval is zero. -/
  heartbeat : c.heartbeat.running = true ↔
    c.state = .connected ∧ c.config.timeouts.heartbeatInterval ≠ 0
  /-- A retry is planned only while reconnecting. -/
  retry : c.retryAt.isSome → c.state = .reconnecting
  /-- Only a connection has a socket id. -/
  socketId : c.state ≠ .connected → c.snapshot.socketId = none
  /-- Without a connection every subscription waits for one. -/
  queued : c.state ≠ .connected → c.registry.All Entry.Queued
  /-- With a connection every subscription is on it. -/
  carried : c.state = .connected → c.registry.All
    (Entry.Carried c.config.timeouts.subscribe c.config.timeouts.unsubscribe)
  /-- Callers read the present snapshot. -/
  published : c.published = c.snapshot

/-- What no part of a turn disturbs. -/
structure Sound (c : Connection) : Prop where
  /-- The heartbeat has the configured interval. -/
  interval : c.heartbeat.interval = c.config.timeouts.heartbeatInterval
  /-- The registry has the configured times. -/
  timeouts : c.registry.timeouts = (c.config.timeouts.subscribe, c.config.timeouts.unsubscribe)
  /-- The entries are in order. -/
  ascending : c.registry.Ascending
  /-- Only a release that is awaited has callers who wait for it. -/
  unreleased : c.registry.All fun e => e.status ≠ .releasing → e.releasers = []

/-- What holds even in the middle of a turn. -/
structure Steady (c : Connection) : Prop extends Sound c where
  /-- A disconnected snapshot is one that callers have read. -/
  rest : c.state = .disconnected → c.published = c.snapshot ∧ c.snapshot.socketId = none

/-- What a turn starts from and leaves behind. -/
structure Ready (c : Connection) : Prop extends Steady c, Coherent c where
  /-- An attempt is under way only while one is wanted and none is put off. -/
  attempt : c.attempt.isSome → (c.state = .connecting ∨ c.state = .reconnecting) ∧ c.retryAt = none
  /-- A connection that stopped for good is disconnected. -/
  stopped : c.stopped = true → c.state = .disconnected

/-- A connection was lost or an attempt failed, and it is not decided yet what follows. -/
structure Cut (c : Connection) : Prop extends Steady c where
  /-- There is no socket. -/
  noSocket : c.socket = none
  /-- The heartbeat stands still. -/
  still : c.heartbeat.running = false
  /-- Every subscription waits. -/
  queued : c.registry.All Entry.Queued
  /-- No attempt is under way. -/
  noAttempt : c.attempt = none
  /-- A connection or an attempt at one came before. -/
  active : c.state.isActive = true
  /-- Only a lost connection still has its socket id. -/
  socketId : c.state ≠ .connected → c.snapshot.socketId = none
  /-- The task goes on. -/
  running : c.stopped = false

/-! ## Entering a state -/

theorem published_entered {c : Connection} {s : ConnectionState}
    (h : c.state = s → c.published = c.snapshot) :
    (c.entered s).published = (c.entered s).snapshot := by
  unfold entered
  split
  · rename_i hs
    exact h hs
  · rfl

theorem socketId_entered {c : Connection} {s : ConnectionState} (hs : s ≠ .connected)
    (h : c.state = s → c.snapshot.socketId = none) : (c.entered s).snapshot.socketId = none := by
  unfold entered
  split
  · rename_i hc
    exact h hc
  · simp

/-! ## Small changes -/

section

variable {c : Connection}

theorem Ready.running (h : c.Ready) (hc : c.state ≠ .disconnected) : c.stopped = false := by
  cases hs : c.stopped with
  | false => rfl
  | true => exact absurd (h.stopped hs) hc

theorem Ready.noAttempt (h : c.Ready) (hc : c.state = .connected) : c.attempt = none := by
  cases ha : c.attempt with
  | none => rfl
  | some a =>
    rcases (h.attempt (by rw [ha]; rfl)).1 with hs | hs
    · exact absurd (hc.symm.trans hs) (by decide)
    · exact absurd (hc.symm.trans hs) (by decide)

theorem Ready.ne_connected (h : c.Ready) {a : Attempt} (ha : c.attempt = some a) :
    c.state ≠ .connected :=
  fun hc => absurd ((h.noAttempt hc).symm.trans ha) nofun

theorem Ready.noSocket (h : c.Ready) (hc : c.state ≠ .connected) : c.socket = none := by
  cases hs : c.socket with
  | none => rfl
  | some socket => exact absurd (h.socket.1 (by rw [hs]; rfl)) hc

theorem Ready.still (h : c.Ready) (hc : c.state ≠ .connected) : c.heartbeat.running = false := by
  cases hr : c.heartbeat.running with
  | false => rfl
  | true => exact absurd (h.heartbeat.1 hr).1 hc

theorem unreleased_of_queued {r : Registry} (h : r.All Entry.Queued) :
    r.All fun e => e.status ≠ .releasing → e.releasers = [] :=
  fun p hp _ => (h p hp).unreleased

theorem unreleased_of_carried {r : Registry} {s u : Nat} (h : r.All (Entry.Carried s u)) :
    r.All fun e => e.status ≠ .releasing → e.releasers = [] :=
  fun p hp => (h p hp).unreleased

/-- Another registry that suits the state. -/
theorem Ready.setRegistry (h : c.Ready) {r : Registry} (hr : r.Ascending)
    (ht : r.timeouts = c.registry.timeouts) (hq : c.state ≠ .connected → r.All Entry.Queued)
    (hc : c.state = .connected → r.All
      (Entry.Carried c.config.timeouts.subscribe c.config.timeouts.unsubscribe)) :
    Ready { c with registry := r } := by
  refine { h with timeouts := ht.trans h.timeouts, ascending := hr, unreleased := ?_,
                  queued := hq, carried := hc }
  by_cases hs : c.state = .connected
  · exact unreleased_of_carried (hc hs)
  · exact unreleased_of_queued (hq hs)

/-- Another snapshot of the same state that callers have read. -/
theorem Ready.setSnapshot (h : c.Ready) {s : Snapshot} (hs : s.state = c.state)
    (hid : c.state ≠ .connected → s.socketId = none) :
    Ready { c with snapshot := s, published := s } := by
  have hstate : ∀ x, (Connection.state { c with snapshot := s, published := s } = x) ↔
      c.state = x := fun x => by rw [← hs]; rfl
  constructor
  case toSteady =>
    refine { h.toSteady with rest := fun hd => ⟨rfl, hid ?_⟩ }
    rw [(hstate _).1 hd]
    decide
  case toCoherent =>
    constructor
    case socket => rw [hstate]; exact h.socket
    case heartbeat => rw [hstate]; exact h.heartbeat
    case retry => rw [hstate]; exact h.retry
    case socketId => rw [Ne, hstate]; exact hid
    case queued => rw [Ne, hstate]; exact h.queued
    case carried => rw [hstate]; exact h.carried
    case published => rfl
  case attempt => rw [hstate, hstate]; exact h.attempt
  case stopped => rw [hstate]; exact h.stopped

/-- Another memory of repeated events. -/
theorem Ready.setDedup (h : c.Ready) (d : DedupFilter) : Ready { c with dedup := d } :=
  { h with }

/-- Another heartbeat that runs when the old one does. -/
theorem Ready.setHeartbeat (h : c.Ready) {b : Heartbeat}
    (hi : b.interval = c.heartbeat.interval) (hr : b.running = c.heartbeat.running) :
    Ready { c with heartbeat := b } := by
  refine { h with interval := hi.trans h.interval, heartbeat := ?_ }
  rw [hr]
  exact h.heartbeat

end

/-! ## Giving up the connection -/

/-- A snapshot that nobody is connected to any more, published or about to be. -/
theorem coherent_entered {c : Connection} {s : ConnectionState} (hs : s ≠ .connected)
    (hsocket : c.socket = none) (hstill : c.heartbeat.running = false)
    (hretry : c.retryAt.isSome → s = .reconnecting) (hqueued : c.registry.All Entry.Queued)
    (hrest : c.state = s → c.published = c.snapshot ∧ c.snapshot.socketId = none) :
    (c.entered s).Coherent := by
  constructor
  case socket => simp [hsocket, hs]
  case heartbeat => simp [hstill, hs]
  case retry => simpa using hretry
  case socketId => exact fun _ => socketId_entered hs fun hc => (hrest hc).2
  case queued => simpa using fun _ => hqueued
  case carried => simp [hs]
  case published => exact published_entered fun hc => (hrest hc).1

/-- Entering a state keeps what holds in the middle of a turn. -/
theorem steady_entered {c : Connection} {s : ConnectionState} (h : c.Sound)
    (hrest : s = .disconnected → (c.entered s).published = (c.entered s).snapshot ∧
      (c.entered s).snapshot.socketId = none) : (c.entered s).Steady := by
  have hsound : (c.entered s).Sound := by
    constructor
    case interval => simpa using h.interval
    case timeouts => simpa using h.timeouts
    case ascending => simpa using h.ascending
    case unreleased => simpa using h.unreleased
  exact { hsound with rest := fun hs => hrest (by simpa using hs) }

/-- With everything stopped, a connection may come to rest. -/
theorem ready_rest {c : Connection} (h : c.Steady) (hsocket : c.socket = none)
    (hstill : c.heartbeat.running = false) (hretry : c.retryAt = none)
    (hattempt : c.attempt = none) (hqueued : c.registry.All Entry.Queued) :
    (c.entered .disconnected).Ready := by
  have hcoherent : (c.entered .disconnected).Coherent :=
    coherent_entered (by decide) hsocket hstill (fun hr => absurd hr (by simp [hretry])) hqueued
      h.rest
  constructor
  case toSteady =>
    exact steady_entered h.toSound fun _ => ⟨hcoherent.published, hcoherent.socketId (by simp)⟩
  case toCoherent => exact hcoherent
  case attempt => simp [hattempt]
  case stopped => simp

theorem ready_withdrawn {c : Connection} (h : c.Steady) : c.withdrawn.Ready := by
  have hqueued := Registry.queued_apply (Registry.queued_demoteAll h.unreleased)
    (x := .failSubscribers .notConnected) trivial
  refine ready_rest ?_ rfl rfl rfl rfl hqueued
  exact {
    interval := h.interval
    timeouts := h.timeouts
    ascending := Registry.ascending_failSubscribers (Registry.ascending_demoteAll h.ascending)
      .notConnected
    unreleased := unreleased_of_queued hqueued
    rest := h.rest }

theorem ready_tornDown {c : Connection} (h : c.Steady) : c.tornDown.Ready := by
  have hqueued : Registry.All (c.registry.clear .cancelled).2 Entry.Queued :=
    fun p hp => absurd hp List.not_mem_nil
  let cleared : Connection := { c with
    attempt := none
    socket := none
    heartbeat := c.heartbeat.stop
    registry := (c.registry.clear .cancelled).2
    retryAt := none }
  have hsteady : cleared.Steady := {
    interval := h.interval
    timeouts := h.timeouts
    ascending := List.Pairwise.nil
    unreleased := unreleased_of_queued hqueued
    rest := h.rest }
  have hready := ready_rest hsteady rfl rfl rfl rfl hqueued
  exact { hready with stopped := fun _ => state_entered cleared .disconnected }

theorem ready_givenUp {c : Connection} (h : c.Cut) : c.givenUp.Ready := by
  have hqueued := Registry.queued_apply h.queued (x := .failSubscribers .notConnected) trivial
  have hne : c.state ≠ .failed := by
    intro hc
    have := h.active
    rw [hc] at this
    exact absurd this (by decide)
  have hcoherent : c.givenUp.Coherent :=
    coherent_entered (by decide) h.noSocket h.still (fun hr => absurd hr (by simp)) hqueued
      fun hc => absurd hc hne
  constructor
  case toSteady =>
    refine steady_entered ?_ fun hc => absurd hc (by decide)
    exact {
      interval := h.interval
      timeouts := h.timeouts
      ascending := Registry.ascending_failSubscribers h.ascending .notConnected
      unreleased := unreleased_of_queued hqueued }
  case toCoherent => exact hcoherent
  case attempt => simp [givenUp, h.noAttempt]
  case stopped => simp [givenUp, h.running]

theorem ready_putOff {c : Connection} (h : c.Cut) (due : Nat) : (c.putOff due).Ready := by
  have hid : (c.putOff due).snapshot.socketId = none := by
    by_cases hs : c.state = .reconnecting
    · simpa [putOff, hs] using h.socketId (by rw [hs]; decide)
    · simp [putOff, hs]
  have hstate : (c.putOff due).state = .reconnecting := rfl
  constructor
  case toSteady =>
    exact { h.toSteady with rest := fun hc => absurd (hstate.symm.trans hc) (by decide) }
  case toCoherent =>
    constructor
    case socket =>
      have hsocket : (c.putOff due).socket = none := h.noSocket
      simp [hstate, hsocket]
    case heartbeat =>
      have hstill : (c.putOff due).heartbeat.running = false := h.still
      simp [hstate, hstill]
    case retry => exact fun _ => hstate
    case socketId => exact fun _ => hid
    case queued => exact fun _ => h.queued
    case carried => exact fun hc => absurd (hstate.symm.trans hc) (by decide)
    case published => rfl
  case attempt => simp [putOff, h.noAttempt]
  case stopped => simp [putOff, h.running]

/-- Losing an established connection cuts it. -/
theorem cut_severed {c : Connection} (h : c.Steady) (ha : c.attempt = none)
    (hc : c.state = .connected) (hr : c.stopped = false) : c.severed.Cut := by
  have hqueued := Registry.queued_demoteAll h.unreleased
  exact {
    interval := h.interval
    timeouts := h.timeouts
    ascending := Registry.ascending_demoteAll h.ascending
    unreleased := unreleased_of_queued hqueued
    rest := h.rest
    noSocket := rfl
    still := rfl
    queued := hqueued
    noAttempt := ha
    active := by show c.state.isActive = true; rw [hc]; rfl
    socketId := fun hs => absurd hc hs
    running := hr }

/-- An attempt that is dropped leaves nothing behind. -/
theorem Ready.cut_of_attempt {c : Connection} (h : c.Ready)
    (hs : c.state = .connecting ∨ c.state = .reconnecting) :
    Cut { c with attempt := none } := by
  have hc : c.state ≠ .connected := by rcases hs with hs | hs <;> rw [hs] <;> decide
  have hd : c.state ≠ .disconnected := by rcases hs with hs | hs <;> rw [hs] <;> decide
  exact {
    h.toSteady with
    noSocket := h.noSocket hc
    still := h.still hc
    queued := h.queued hc
    noAttempt := rfl
    active := by show c.state.isActive = true; rcases hs with hs | hs <;> rw [hs] <;> rfl
    socketId := h.socketId
    running := h.running hd }

end Connection

namespace Turn

open Connection

/-! ## What follows a loss -/

theorem ready_goDisconnected {t : Turn} (h : t.conn.Steady) : t.goDisconnected.conn.Ready := by
  rw [conn_goDisconnected]
  exact ready_withdrawn h

theorem ready_scheduleRetry {t : Turn} (h : t.conn.Cut) : t.scheduleRetry.conn.Ready := by
  rcases conn_scheduleRetry t with ⟨-, hc⟩ | ⟨-, -, hc⟩ | ⟨-, -, due, hc⟩
  · exact hc ▸ ready_withdrawn h.toSteady
  · exact hc ▸ ready_givenUp h
  · exact hc ▸ ready_putOff h due

theorem ready_lose_of_steady {t : Turn} (h : t.conn.Steady) (ha : t.conn.attempt = none)
    (hc : t.conn.state = .connected) (hr : t.conn.stopped = false) (reason : DisconnectReason)
    (ended : Bool) : (t.lose reason ended).conn.Ready := by
  obtain ⟨t', hconn, -, heq⟩ := lose_eq t reason ended
  have hcut : t'.conn.Cut := hconn ▸ cut_severed h ha hc hr
  rw [heq]
  cases ended with
  | true => exact ready_goDisconnected hcut.toSteady
  | false => exact ready_scheduleRetry hcut

theorem ready_attemptFailed {t : Turn} (h : t.conn.Ready)
    (hs : t.conn.state = .connecting ∨ t.conn.state = .reconnecting) (f : Fault) :
    (t.attemptFailed f).conn.Ready := by
  obtain ⟨t', hconn, -, heq⟩ := attemptFailed_eq t f
  have hcut : t'.conn.Cut := hconn ▸ h.cut_of_attempt hs
  rw [heq]
  cases f.isRecoverable with
  | true => exact ready_scheduleRetry hcut
  | false => exact ready_goDisconnected hcut.toSteady

end Turn
end LiveSync
