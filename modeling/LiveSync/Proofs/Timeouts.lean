import LiveSync.Proofs.Connection.Handshake
import LiveSync.Proofs.Connection.Strides
import Mathlib

/-!
# Waits without a bound

A span stands for no bound at all if it is zero or longer than a year.  The two waits of an attempt
take it so.  The registry and the heartbeat ask only whether it is zero: a request or a ping that
may take longer than a year has a deadline nevertheless.

* `Registry.allowance`, `Registry.untimed_iff` — which entries never have a deadline.
* `Heartbeat.unawaited_iff` — which heartbeats never wait for an answer.
* `Connection.Waits`, `Connection.waits_run` — where the deadlines of an attempt come from.
* `Connection.untimed_opening_iff` — which attempts open a socket without a deadline.
* `waits_without_bound` — the timers side by side.
* `long_waits_end` — with a year and a day there are deadlines.
* `Instant.last`, `deadlines_in_range` — how long a wait may be before the clock has no instant for
  its end.
-/

namespace LiveSync

/-! ## Requests -/

namespace Registry

/-- How long the acknowledgement of an entry may take, by its state. -/
def allowance (s u : Nat) : Status → Nat
  | .pending => s
  | .active => 0
  | .releasing => u

/-- An entry has no deadline if zero stands for the time that it may take. -/
def Untimed (s u : Nat) (e : Entry) : Prop :=
  allowance s u e.status = 0 → e.deadline = none

theorem deadlineAfter_zero (now : Nat) : deadlineAfter now 0 = none :=
  if_pos rfl

theorem untimed_of_leaves {s u : Nat} {r : Registry} (hr : r.timeouts = (s, u))
    (h : r.All (Untimed s u)) {x : Change} {id : String} {e : Entry} (hl : r.Leaves x id e) :
    Untimed s u e := by
  obtain ⟨hs, hu⟩ : r.subscribeTimeout = s ∧ r.unsubscribeTimeout = u := Prod.mk.inj hr
  cases hl with
  | kept hm | joined _ _ _ hm | rejoined _ _ _ hm | watched _ hm | failed _ hm => exact h _ hm
  | opened ticket now connected =>
    intro hzero
    cases connected with
    | false => rfl
    | true =>
      show deadlineAfter now r.subscribeTimeout = none
      rw [hs.trans hzero, deadlineAfter_zero]
  | parted ticket now =>
    intro hzero
    show deadlineAfter now r.unsubscribeTimeout = none
    rw [hu.trans hzero, deadlineAfter_zero]
  | reissued now hm hunsent =>
    intro hzero
    simp only [Entry.isUnsent, Bool.and_eq_true, decide_eq_true_eq] at hunsent
    rw [show allowance s u _ = s by rw [hunsent.1]; rfl] at hzero
    show deadlineAfter now r.subscribeTimeout = none
    rw [hs.trans hzero, deadlineAfter_zero]
  | acknowledged | demoted => exact fun _ => rfl

/-- **Zero sets no deadline**, whatever the history. -/
theorem untimed_applyAll (s u : Nat) (xs : List Change) :
    ((new s u).applyAll xs).2.All (Untimed s u) :=
  (applyAll_induction (P := fun r => r.timeouts = (s, u) ∧ r.All (Untimed s u))
    (fun r x h => ⟨(timeouts_apply r x).trans h.1, all_apply fun _ _ => untimed_of_leaves h.1 h.2⟩)
    ⟨rfl, fun _ hp => absurd hp List.not_mem_nil⟩ xs).2

/-- A history that leads an entity into a state, with everything done at the start of the clock. -/
def path : Status → List Change
  | .pending => [.subscribe "X-1" 0 0 true]
  | .active => [.subscribe "X-1" 0 0 true, .acknowledge "X-1" []]
  | .releasing =>
    [.subscribe "X-1" 0 0 true, .acknowledge "X-1" [], .unsubscribe "X-1" 1 0 true]

/-- At the end of the path there is a deadline, unless zero stands for the time. -/
theorem deadline_path (s u : Nat) (status : Status) :
    ∃ e, ("X-1", e) ∈ ((new s u).applyAll (path status)).2.entries ∧ e.status = status ∧
      e.deadline = deadlineAfter 0 (allowance s u status) := by
  cases status <;> exact ⟨_, List.mem_cons_self, rfl, rfl⟩

/-- **Only zero sets no deadline**: an entry in a state never has one exactly if its request may
take no time. -/
theorem untimed_iff (s u : Nat) (status : Status) :
    (∀ xs, ((new s u).applyAll xs).2.All fun e => e.status = status → e.deadline = none) ↔
      allowance s u status = 0 := by
  constructor
  · intro h
    obtain ⟨e, hm, hstatus, hdeadline⟩ := deadline_path s u status
    by_contra hne
    have hsome := (deadlineAfter_isSome_iff 0 _).2 hne
    rw [← hdeadline, h _ _ hm hstatus] at hsome
    exact absurd hsome nofun
  · intro hzero xs p hp hstatus
    exact untimed_applyAll s u xs p hp (by rw [hstatus, hzero])

end Registry

/-! ## Pings -/

namespace Heartbeat

/-- A heartbeat to which answers do not matter waits for none. -/
theorem unawaited_comes {h h' : Heartbeat} {now : Nat} {c : Call} {e : Event}
    (hpong : h.pongTimeout = 0) (hout : h.outstanding = none) (hc : Comes h now c e h') :
    h'.outstanding = none := by
  cases hc with
  | start | stop => rfl
  | decline => exact hout
  | poll hp =>
    cases hp with
    | off | early | skip => exact hout
    | send => exact if_pos hpong
    | expire => rfl
  | pong ht =>
    cases ht with
    | unasked | stale => exact hout
    | answer => rfl

theorem unawaited_run {h : Heartbeat} (hpong : h.pongTimeout = 0) (hout : h.outstanding = none)
    (calls : List (Nat × Call)) : (h.run calls).2.outstanding = none := by
  induction calls generalizing h with
  | nil => exact hout
  | cons first rest ih =>
    have hc := comes_call h first.1 first.2
    exact ih ((congrArg Prod.snd hc.settings).trans hpong) (unawaited_comes hpong hout hc)

theorem interval_run (h : Heartbeat) (calls : List (Nat × Call)) :
    (h.run calls).2.interval = h.interval := by
  induction calls generalizing h with
  | nil => rfl
  | cons first rest ih =>
    exact (ih _).trans (congrArg Prod.fst (comes_call h first.1 first.2).settings)

/-- The first ping goes out one interval after the start. -/
theorem outstanding_first {interval pong : Nat} (hi : interval ≠ 0) (hp : pong ≠ 0) :
    ((new interval pong).run [(0, .start), (interval, .poll)]).2.outstanding =
      some ⟨1, interval + pong⟩ := by
  simp [run, call, new, start, isEnabled, poll, awaited, hi, hp]

/-- **Only zero keeps a heartbeat from waiting**: as the interval, or as the time for an answer. -/
theorem unawaited_iff (interval pong : Nat) :
    (∀ calls, ((new interval pong).run calls).2.outstanding = none) ↔ interval = 0 ∨ pong = 0 := by
  constructor
  · intro h
    by_contra hne
    obtain ⟨hi, hp⟩ := not_or.1 hne
    exact absurd ((h _).symm.trans (outstanding_first hi hp)) nofun
  · rintro (hi | hp) calls
    · have hsound := (sound_new interval pong).run calls
      refine (hsound.still (Bool.eq_false_of_not_eq_true fun hr => hsound.enabled hr ?_)).2
      rw [interval_run]
      exact hi
    · exact unawaited_run hp rfl calls

end Heartbeat

/-! ## Attempts -/

/-- What was given up makes no attempt. -/
theorem Pace.Sequel.attempt {options : Options} {p after : Pace} {told : List Effect}
    (h : p.Sequel options after told) : after.attempt = none := by
  cases h <;> rfl

theorem Pace.Onward.attempt {options : Options} {p after : Pace} {told : List Effect}
    (h : p.Onward options after told) (hp : p.attempt = none) : after.attempt = none := by
  cases h with
  | stays => exact hp
  | quits _ h => exact h.attempt

namespace Connection

/-- When the wait for a socket is over, if it begins now. -/
def openingDeadline (c : Connection) (m : Moment) : Option Nat :=
  let timeout := c.config.timeouts.connection
  if Span.isUnbounded timeout then none else some (m.now + timeout)

theorem step_dial {c : Connection} (h : c.Ready) {token : String}
    (ha : c.attempt = some (.ready token)) (m : Moment) :
    (c.step m .dial).1.attempt = some (.opening (c.openingDeadline m)) := by
  have hstep := Turn.step_attempt (t := { conn := c, moment := m }) h ha .dial
  unfold Turn.stepAttempt at hstep
  rw [ha] at hstep
  unfold step
  rw [hstep]
  rfl

/-- An attempt as it is when one of its waits begins. -/
inductive Waits (config : Config) (m : Moment) : Attempt → Prop where
  /-- It has a token. -/
  | ready (token : String) : Waits config m (.ready token)
  /-- It waits for a socket from now on. -/
  | opening : Waits config m (.opening ((new config).openingDeadline m))
  /-- It waits for the handshake from now on. -/
  | handshaking (socket : SocketNumber) :
      Waits config m (.handshaking socket ((new config).handshakeDeadline m))

/-- **An attempt is the one of before, or one of its waits begins with the step.** -/
theorem waits_step {c : Connection} (h : c.Ready) (m : Moment) (i : Input) {a : Attempt}
    (ha : (c.step m i).1.attempt = some a) : c.attempt = some a ∨ Waits c.config m a := by
  have hgone : ∀ {told : List Effect}, c.Abandons (c.step m i).1 told → False := by
    intro told habandons
    obtain ⟨_, _, _, _, hsequel⟩ := habandons.signals
    exact absurd (hsequel.attempt.symm.trans ha) nofun
  have hstays : (c.step m i).1.pace.attempt = c.attempt → c.attempt = some a :=
    fun hsame => hsame.symm.trans ha
  have hstride := stride_step h m i
  generalize hc' : (c.step m i).1 = c' at *
  generalize signals (c.step m i).2 = told at hstride
  cases hstride with
  | calm _ hpace => exact Or.inl (hstays (congrArg Pace.attempt hpace))
  | abandoned habandons => exact (hgone habandons).elim
  | passed _ _ hpasses => exact Or.inl (hstays (congrArg Pace.attempt hpasses.pace))
  | refused _ _ _ habandons => exact (hgone habandons).elim
  | started _ hstarts => exact absurd ((congrArg Pace.attempt hstarts.pace).symm.trans ha) nofun
  | waited _ hpace => exact Or.inl (hstays (congrArg Pace.attempt hpace))
  | begun _ _ hpace =>
    obtain rfl := Option.some.inj ((congrArg Pace.attempt hpace).symm.trans ha)
    exact Or.inr (.ready _)
  | dialled hready =>
    rw [← hc', step_dial h hready] at ha
    obtain rfl := Option.some.inj ha
    exact Or.inr .opening
  | opened hopening =>
    rw [← hc', step_opened h hopening] at ha
    obtain rfl := Option.some.inj ha
    exact Or.inr (.handshaking _)
  | greeted _ _ hgreets =>
    obtain ⟨_, _, _, _, honward⟩ := hgreets.signals
    exact absurd ((honward.attempt rfl).symm.trans ha) nofun

/-- **The waits of an attempt begin with inputs of the run.** -/
theorem waits_run (config : Config) (inputs : List (Moment × Input)) {a : Attempt}
    (ha : ((new config).run inputs).1.attempt = some a) : ∃ x ∈ inputs, Waits config x.1 a := by
  induction inputs using List.reverseRecOn with
  | nil => exact absurd ha nofun
  | append_singleton inputs last ih =>
    have hready := ready_run (ready_new config) inputs
    have hconfig : ((new config).run inputs).1.config = config :=
      congrArg Prod.fst (setup_run (ready_new config) inputs)
    rw [run_append] at ha
    rcases waits_step hready last.1 last.2 ha with hbefore | hwaits
    · obtain ⟨x, hx, hwaits⟩ := ih hbefore
      exact ⟨x, List.mem_append_left _ hx, hwaits⟩
    · exact ⟨last, by simp, hconfig ▸ hwaits⟩

section

variable {c : Connection} (h : c.Ready) {m : Moment} {token : String}
  (hu : Credential.usable m.token m.seconds = .ok token)
include h hu

/-- With a usable token a command to connect makes an attempt due. -/
theorem attemptDue_connect (hs : c.state = .disconnected) (hr : c.stopped = false) :
    (c.step m (.command .connect)).1.AttemptDue := by
  have hstep : Turn.step { conn := c, moment := m } (.command .connect) =
      Turn.beginConnect { conn := c, moment := m } := by
    rw [Turn.step_idle hr (by rw [hs]; rfl)]
    simp [Turn.stepIdle, Turn.commandOffline, hs]
  obtain ⟨_, -, hstarts⟩ :=
    (Turn.starts_beginConnect (t := { conn := c, moment := m }) h (Or.inl hs) hu).signals
  have hpace : (c.step m (.command .connect)).1.pace = ⟨.connecting, 0, none, none⟩ := by
    unfold step
    rw [hstep]
    exact hstarts.pace
  exact ⟨Or.inl (congrArg Pace.state hpace), congrArg Pace.retryAt hpace,
    congrArg Pace.attempt hpace⟩

/-- With a usable token an attempt that is due begins. -/
theorem step_begins (hdue : c.AttemptDue) :
    (c.step m .attempt).1.attempt = some (.ready token) := by
  obtain ⟨hs, hretry, hattempt⟩ := hdue
  have hr : c.stopped = false := h.running (by rcases hs with hs | hs <;> rw [hs] <;> decide)
  unfold step
  rw [Turn.step_waiting hr hs hretry]
  simp [Turn.stepAttempt, hattempt, Turn.beginAttempt, hu]

end

/-- Some run of a connection waits for a socket. -/
theorem exists_opening (config : Config) : ∃ inputs m,
    ((new config).run inputs).1.attempt = some (.opening ((new config).openingDeadline m)) := by
  let m : Moment :=
    { now := 0, seconds := 0, token := some "token", sendFault := fun _ => none, draw := 0.0 }
  have hu : Credential.usable m.token m.seconds = .ok "token" := by decide +kernel
  have h₀ := ready_new config
  have h₁ := ready_step h₀ m (.command .connect)
  have h₂ := ready_step h₁ m .attempt
  have hconfig : (((new config).step m (.command .connect)).1.step m .attempt).1.config = config :=
    (config_step h₁ m .attempt).trans (config_step h₀ m (.command .connect))
  have hready := step_begins h₁ hu (attemptDue_connect h₀ hu rfl rfl)
  refine ⟨[Input.command .connect, .attempt, .dial].map (m, ·), m, ?_⟩
  refine (step_dial h₂ hready m).trans ?_
  unfold openingDeadline
  rw [hconfig]
  rfl

/-- **Only a span without bound opens a socket without a deadline.** -/
theorem untimed_opening_iff (config : Config) :
    (∀ inputs deadline, ((new config).run inputs).1.attempt = some (.opening deadline) →
      deadline = none) ↔ Span.isUnbounded config.timeouts.connection = true := by
  constructor
  · intro h
    obtain ⟨inputs, m, hopening⟩ := exists_opening config
    by_contra hbounded
    have hsome : (new config).openingDeadline m = some (m.now + config.timeouts.connection) :=
      if_neg hbounded
    exact absurd (hsome.symm.trans (h inputs _ hopening)) nofun
  · intro hunbounded inputs deadline hopening
    obtain ⟨x, -, hwaits⟩ := waits_run config inputs hopening
    cases hwaits
    exact if_pos hunbounded

/-- **The handshake has a deadline always**: without a bound it is a hundred years away. -/
theorem handshake_deadline (config : Config) (inputs : List (Moment × Input))
    {socket : SocketNumber} {deadline : Nat}
    (h : ((new config).run inputs).1.attempt = some (.handshaking socket deadline)) :
    ∃ x ∈ inputs, deadline = x.1.now +
      if Span.isUnbounded config.timeouts.handshake then Span.farFuture
      else config.timeouts.handshake := by
  obtain ⟨x, hx, hwaits⟩ := waits_run config inputs h
  cases hwaits
  exact ⟨x, hx, rfl⟩

end Connection

/-! ## The timers side by side -/

/-- **Which spans arm no timer.**  A request and a ping have no deadline if the span is zero, and
only then, also if it is longer than a year; a socket is opened without a deadline if the span
stands for no bound, and only then; and a handshake that has no bound is waited for a hundred years.
The instants are numbers here, and a span may be added to each; `deadlines_in_range` says when a
clock has an instant for the sum. -/
theorem waits_without_bound (url : String) (options : Options) (t : Timeouts) :
    ((∀ xs, ((Registry.new t.subscribe t.unsubscribe).applyAll xs).2.All fun e =>
        e.status = .pending → e.deadline = none) ↔ t.subscribe = 0) ∧
      ((∀ xs, ((Registry.new t.subscribe t.unsubscribe).applyAll xs).2.All fun e =>
        e.status = .releasing → e.deadline = none) ↔ t.unsubscribe = 0) ∧
      ((∀ calls, ((Heartbeat.new t.heartbeatInterval t.pong).run calls).2.outstanding = none) ↔
        t.heartbeatInterval = 0 ∨ t.pong = 0) ∧
      ((∀ inputs deadline,
        ((Connection.new ⟨url, options, t⟩).run inputs).1.attempt = some (.opening deadline) →
          deadline = none) ↔ Span.isUnbounded t.connection = true) ∧
      ∀ inputs socket deadline,
        ((Connection.new ⟨url, options, t⟩).run inputs).1.attempt =
          some (.handshaking socket deadline) →
        ∃ x ∈ inputs, deadline =
          x.1.now + if Span.isUnbounded t.handshake then Span.farFuture else t.handshake :=
  ⟨Registry.untimed_iff _ _ .pending, Registry.untimed_iff _ _ .releasing,
    Heartbeat.unawaited_iff _ _, Connection.untimed_opening_iff _,
    fun inputs _ _ => Connection.handshake_deadline _ inputs⟩

/-- A year and a day stands for no bound, but it bounds the acknowledgement of either request and
the answer to a ping. -/
theorem long_waits_end :
    (¬∀ t : Timeouts, Span.isUnbounded t.subscribe = true →
      ∀ xs, ((Registry.new t.subscribe t.unsubscribe).applyAll xs).2.All fun e =>
        e.status = .pending → e.deadline = none) ∧
      (¬∀ t : Timeouts, Span.isUnbounded t.unsubscribe = true →
        ∀ xs, ((Registry.new t.subscribe t.unsubscribe).applyAll xs).2.All fun e =>
          e.status = .releasing → e.deadline = none) ∧
      ¬∀ t : Timeouts, Span.isUnbounded t.pong = true →
        ∀ calls, ((Heartbeat.new t.heartbeatInterval t.pong).run calls).2.outstanding = none := by
  let yearAndDay := Span.ofSeconds (86400 * 366)
  let t : Timeouts := { subscribe := yearAndDay, unsubscribe := yearAndDay, pong := yearAndDay }
  refine ⟨fun h => ?_, fun h => ?_, fun h => ?_⟩
  · exact absurd ((Registry.untimed_iff _ _ .pending).1 (h t (by decide))) (by decide)
  · exact absurd ((Registry.untimed_iff _ _ .releasing).1 (h t (by decide))) (by decide)
  · exact absurd ((Heartbeat.unawaited_iff _ _).1 (h t (by decide))) (by decide)

/-! ## How far deadlines reach -/

/-- The last instant of a clock that counts the seconds with 63 bits. -/
def Instant.last : Nat := Span.ofSeconds 0x8000000000000000 - 1

namespace Registry

/-- When a change is made, as far as the registry is told. -/
def Change.time? : Change → Option Nat
  | .subscribe _ _ now _ | .unsubscribe _ _ now _ | .expire now | .reissue now => some now
  | _ => none

/-- The deadline of an entry is not later than an instant. -/
def DueBy (limit : Nat) (e : Entry) : Prop :=
  ∀ due, e.deadline = some due → due ≤ limit

theorem le_of_deadlineAfter {now timeout due : Nat} (h : deadlineAfter now timeout = some due) :
    due ≤ now + timeout := by
  simp only [deadlineAfter, Option.ite_none_left_eq_some, Option.some.injEq] at h
  exact Nat.le_of_eq h.2.symm

theorem dueBy_of_leaves {limit : Nat} {r : Registry} (h : r.All (DueBy limit)) {x : Change}
    (hx : ∀ now, x.time? = some now → now + max r.subscribeTimeout r.unsubscribeTimeout ≤ limit)
    {id : String} {e : Entry} (hl : r.Leaves x id e) : DueBy limit e := by
  have hset : ∀ {now timeout : Nat}, x.time? = some now →
      timeout ≤ max r.subscribeTimeout r.unsubscribeTimeout →
      ∀ due, deadlineAfter now timeout = some due → due ≤ limit := by
    intro now timeout htime hle due hdue
    have hdue := le_of_deadlineAfter hdue
    have hnow := hx now htime
    omega
  cases hl with
  | kept hm | joined _ _ _ hm | rejoined _ _ _ hm | watched _ hm | failed _ hm => exact h _ hm
  | opened ticket now connected =>
    cases connected with
    | false => exact nofun
    | true => exact hset rfl (Nat.le_max_left ..)
  | parted ticket now => exact hset rfl (Nat.le_max_right ..)
  | reissued now => exact hset rfl (Nat.le_max_left ..)
  | acknowledged | demoted => exact nofun

/-- **No deadline is further away than the longer of the two waits.** -/
theorem dueBy_applyAll {limit : Nat} {r : Registry} (h : r.All (DueBy limit)) {xs : List Change}
    (hxs : ∀ x ∈ xs, ∀ now, x.time? = some now →
      now + max r.subscribeTimeout r.unsubscribeTimeout ≤ limit) :
    (r.applyAll xs).2.All (DueBy limit) := by
  induction xs generalizing r with
  | nil => exact h
  | cons x rest ih =>
    obtain ⟨hfirst, hrest⟩ := List.forall_mem_cons.1 hxs
    obtain ⟨hs, hu⟩ := Prod.mk.inj (timeouts_apply r x)
    rw [← hs, ← hu] at hrest
    exact ih (all_apply fun _ _ => dueBy_of_leaves h hfirst) hrest

end Registry

namespace Heartbeat

/-- The next ping and the end of the wait for an answer are not later than an instant. -/
structure DueBy (limit : Nat) (h : Heartbeat) : Prop where
  /-- The next ping. -/
  ping : ∀ due, h.nextPing = some due → due ≤ limit
  /-- The end of the wait. -/
  answer : ∀ p, h.outstanding = some p → p.deadline ≤ limit

theorem le_of_awaited {h : Heartbeat} {now : Nat} {p : Ping} (hp : h.awaited now = some p) :
    p.deadline ≤ now + h.pongTimeout := by
  simp only [awaited, Option.ite_none_left_eq_some, Option.some.injEq] at hp
  rw [← hp.2]

theorem dueBy_new (interval pong limit : Nat) : DueBy limit (new interval pong) where
  ping := by simp [new]
  answer := by simp [new]

theorem DueBy.comes {limit : Nat} {h h' : Heartbeat} (hd : DueBy limit h) {now : Nat}
    (hnow : now + max h.interval h.pongTimeout ≤ limit) {c : Call} {e : Event}
    (hc : Comes h now c e h') : DueBy limit h' := by
  have hping : ∀ due, some (now + h.interval) = some due → due ≤ limit := by
    intro due hdue
    have hdue := Option.some.inj hdue
    omega
  cases hc with
  | start => exact ⟨hping, nofun⟩
  | stop => exact ⟨nofun, nofun⟩
  | decline => exact hd
  | poll hp =>
    cases hp with
    | off | early => exact hd
    | skip => exact ⟨hping, hd.answer⟩
    | send =>
      refine ⟨hping, fun p hp => ?_⟩
      have hp := le_of_awaited hp
      omega
    | expire => exact ⟨nofun, nofun⟩
  | pong ht =>
    cases ht with
    | unasked | stale => exact hd
    | answer => exact ⟨hd.ping, nofun⟩

/-- **Neither timer is further away than the longer of the two spans.** -/
theorem DueBy.run {limit : Nat} {h : Heartbeat} (hd : DueBy limit h) {calls : List (Nat × Call)}
    (hcalls : ∀ c ∈ calls, c.1 + max h.interval h.pongTimeout ≤ limit) :
    DueBy limit (h.run calls).2 := by
  induction calls generalizing h with
  | nil => exact hd
  | cons first rest ih =>
    obtain ⟨hfirst, hrest⟩ := List.forall_mem_cons.1 hcalls
    have hc := comes_call h first.1 first.2
    obtain ⟨hinterval, hpong⟩ := Prod.mk.inj hc.settings
    rw [← hinterval, ← hpong] at hrest
    exact ih (hd.comes hfirst hc) hrest

end Heartbeat

/-- What is no wait without bound is not longer than a year. -/
theorem Span.le_longest {d : Nat} (h : Span.isUnbounded d = false) : d ≤ Span.longest := by
  simp only [Span.isUnbounded, Bool.or_eq_false_iff, decide_eq_false_iff_not] at h
  exact Nat.le_of_not_lt h.2

/-- **An attempt waits a hundred years at most.** -/
theorem Connection.attempt_dueBy {config : Config} {limit : Nat} {inputs : List (Moment × Input)}
    (hinputs : ∀ x ∈ inputs, x.1.now + Span.farFuture ≤ limit) {a : Attempt}
    (ha : ((Connection.new config).run inputs).1.attempt = some a) :
    (∀ due, a = .opening (some due) → due ≤ limit) ∧
      ∀ socket due, a = .handshaking socket due → due ≤ limit := by
  have hyear : Span.longest ≤ Span.farFuture := by decide
  obtain ⟨x, hx, hwaits⟩ := waits_run config inputs ha
  have hnow := hinputs x hx
  cases hwaits with
  | ready => exact ⟨nofun, nofun⟩
  | opening =>
    refine ⟨fun due hdue => ?_, nofun⟩
    have hdue := Attempt.opening.inj hdue
    simp only [openingDeadline, Option.ite_none_left_eq_some, Option.some.injEq] at hdue
    obtain ⟨hbounded, rfl⟩ := hdue
    have hle := Span.le_longest (Bool.eq_false_of_not_eq_true hbounded)
    exact Nat.le_trans (Nat.add_le_add_left (Nat.le_trans hle hyear) _) hnow
  | handshaking =>
    refine ⟨nofun, fun socket due hdue => ?_⟩
    obtain ⟨-, rfl⟩ := Attempt.handshaking.inj hdue
    refine Nat.le_trans (Nat.add_le_add_left ?_ _) hnow
    show (if Span.isUnbounded config.timeouts.handshake then _ else _) ≤ _
    split
    · exact Nat.le_refl _
    · rename_i hbounded
      exact Nat.le_trans (Span.le_longest (Bool.eq_false_of_not_eq_true hbounded)) hyear

/-- **The clock has an instant for every deadline**, as long as the longest wait, counted from any
time at which something is done, ends before the clock does. -/
theorem deadlines_in_range (config : Config) :
    let t := config.timeouts
    (∀ xs : List Registry.Change,
      (∀ x ∈ xs, ∀ now, x.time? = some now →
        now + max t.subscribe t.unsubscribe ≤ Instant.last) →
      ((Registry.new t.subscribe t.unsubscribe).applyAll xs).2.All fun e =>
        ∀ due, e.deadline = some due → due ≤ Instant.last) ∧
    (∀ calls : List (Nat × Heartbeat.Call),
      (∀ c ∈ calls, c.1 + max t.heartbeatInterval t.pong ≤ Instant.last) →
      Heartbeat.DueBy Instant.last
        ((Heartbeat.new t.heartbeatInterval t.pong).run calls).2) ∧
    ∀ inputs, (∀ x ∈ inputs, x.1.now + Span.farFuture ≤ Instant.last) → ∀ a,
      ((Connection.new config).run inputs).1.attempt = some a →
      (∀ due, a = .opening (some due) → due ≤ Instant.last) ∧
        ∀ socket due, a = .handshaking socket due → due ≤ Instant.last :=
  ⟨fun _ hxs => Registry.dueBy_applyAll (fun _ hp => absurd hp List.not_mem_nil) hxs,
    fun _ hcalls => (Heartbeat.dueBy_new _ _ _).run hcalls,
    fun _ hinputs _ ha => Connection.attempt_dueBy hinputs ha⟩

end LiveSync
