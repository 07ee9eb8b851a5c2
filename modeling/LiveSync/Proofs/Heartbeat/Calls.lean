import LiveSync.Heartbeat

/-!
# The calls of a heartbeat

A heartbeat is started and stopped, polled, and handed the answers of the peer, in any order.  What
a poll or an answer can come to is listed once, with all that is known in each case; runs are rows
of calls, each at its time, with a log of what came of them.

* `Polls`, `polls_poll` — what a poll comes to.
* `Takes`, `takes_onPong` — what an answer comes to.
* `Call`, `call`, `run` — rows of calls and their log.
* `Sound`, `Sound.run` — only a heartbeat with an interval runs, and one that does not run waits
  for nothing.
* `Ahead`, `Sound.ahead_polls` — a poll leaves nothing behind that is due.
-/

namespace LiveSync

open LiveSync.Json

namespace Heartbeat

/-! ## Polls and answers -/

/-- What a poll comes to: the action, and the heartbeat afterwards. -/
inductive Polls (h : Heartbeat) (now : Nat) : HeartbeatAction → Heartbeat → Prop where
  /-- The heartbeat does not run. -/
  | off (hr : h.running = false) : Polls h now .idle h
  /-- Neither a ping nor the end of a wait is due. -/
  | early (hping : ∀ due, h.nextPing = some due → now < due)
      (hpong : ∀ p, h.outstanding = some p → now < p.deadline) : Polls h now .idle h
  /-- A ping is due while another one is outstanding: it is left out. -/
  | skip {due : Nat} {p : Ping} (hping : h.nextPing = some due) (hdue : due ≤ now)
      (hout : h.outstanding = some p) (hpong : now < p.deadline) :
      Polls h now .idle { h with nextPing := some (now + h.interval) }
  /-- A ping is due, and it is sent. -/
  | send {due : Nat} (hr : h.running = true) (hping : h.nextPing = some due) (hdue : due ≤ now)
      (hout : h.outstanding = none) :
      Polls h now (.ping (h.seq + 1))
        { h with
          nextPing := some (now + h.interval)
          seq := h.seq + 1
          lastSent := some now
          outstanding := h.awaited now }
  /-- The outstanding ping was not answered in time. -/
  | expire {p : Ping} (hout : h.outstanding = some p) (hpong : p.deadline ≤ now) :
      Polls h now .expired h.stop

/-- **A poll comes to one of these.** -/
theorem polls_poll (h : Heartbeat) (now : Nat) : Polls h now (h.poll now).1 (h.poll now).2 := by
  unfold poll
  split
  · rename_i hr
    exact .off (by simpa using hr)
  · rename_i hr
    split
    · rename_i hover
      obtain ⟨p, hout, hpong⟩ := (Option.any_eq_true _ _).1 hover
      exact .expire hout (by simpa using hpong)
    · rename_i hover
      have hpong : ∀ p, h.outstanding = some p → now < p.deadline := by
        intro p hout
        simpa [hout] using hover
      split
      · rename_i hping
        obtain ⟨due, hping, hdue⟩ := (Option.any_eq_true _ _).1 hping
        dsimp only
        split
        · rename_i hsome
          obtain ⟨p, hout⟩ := Option.isSome_iff_exists.1 hsome
          exact .skip hping (by simpa using hdue) hout (hpong p hout)
        · rename_i hnone
          exact .send (by simpa using hr) hping (by simpa using hdue) (by simpa using hnone)
      · rename_i hping
        refine .early (fun due hdue => ?_) hpong
        simpa [hdue] using hping

/-- What an answer comes to: whether it is accepted, and the heartbeat afterwards. -/
inductive Takes (h : Heartbeat) (payload : Value) (now : Nat) : Bool → Heartbeat → Prop where
  /-- Nothing is outstanding. -/
  | unasked (hout : h.outstanding = none) : Takes h payload now false h
  /-- It answers another ping than the one that is outstanding. -/
  | stale {p : Ping} (hout : h.outstanding = some p) (ha : answers p payload = false) :
      Takes h payload now false h
  /-- It answers the outstanding ping. -/
  | answer {p : Ping} (hout : h.outstanding = some p) (ha : answers p payload = true) :
      Takes h payload now true { h with outstanding := none, lastAck := some now }

/-- **An answer comes to one of these.** -/
theorem takes_onPong (h : Heartbeat) (payload : Value) (now : Nat) :
    Takes h payload now (h.onPong payload now).1 (h.onPong payload now).2 := by
  unfold onPong
  split
  · rename_i hout
    exact .unasked hout
  · rename_i p hout
    split
    · rename_i ha
      exact .answer hout ha
    · rename_i ha
      exact .stale hout (by simpa using ha)

/-- An answer is accepted if it answers the outstanding ping. -/
theorem Takes.accepted_iff {h h' : Heartbeat} {payload : Value} {now : Nat} {accepted : Bool}
    (ht : Takes h payload now accepted h') :
    accepted = true ↔ ∃ p, h.outstanding = some p ∧ answers p payload = true := by
  cases ht with
  | unasked hout => simp [hout]
  | stale hout ha => simp [hout, ha]
  | answer hout ha => simp [hout, ha]

/-- An answer that is not accepted changes nothing. -/
theorem Takes.ignored {h h' : Heartbeat} {payload : Value} {now : Nat}
    (ht : Takes h payload now false h') : h' = h := by
  cases ht <;> rfl

/-! ## Rows of calls -/

/-- A call of a heartbeat. -/
inductive Call where
  /-- Start it over. -/
  | start
  /-- Stop it. -/
  | stop
  /-- Let it do what is due. -/
  | poll
  /-- Hand it an answer of the peer. -/
  | pong (payload : Value)

/-- What comes of a call. -/
inductive Event where
  /-- It was started. -/
  | started
  /-- It was stopped. -/
  | stopped
  /-- A poll asked for nothing. -/
  | idle
  /-- A poll asked for the ping of that number. -/
  | pinged (seq : Nat)
  /-- A poll found that the peer is gone. -/
  | expired
  /-- An answer was accepted. -/
  | accepted
  /-- An answer was not accepted. -/
  | ignored
  deriving DecidableEq

/-- What a poll writes into the log. -/
def eventOf : HeartbeatAction → Event
  | .idle => .idle
  | .ping seq => .pinged seq
  | .expired => .expired

/-- Make a call.  The result says what came of it. -/
def call (h : Heartbeat) (now : Nat) : Call → Event × Heartbeat
  | .start => (.started, h.start now)
  | .stop => (.stopped, h.stop)
  | .poll => (eventOf (h.poll now).1, (h.poll now).2)
  | .pong payload =>
    (if (h.onPong payload now).1 then .accepted else .ignored, (h.onPong payload now).2)

/-- Make calls, each at its time.  The result has the log and the heartbeat in the end. -/
def run (h : Heartbeat) : List (Nat × Call) → List (Nat × Event) × Heartbeat
  | [] => ([], h)
  | (now, c) :: rest =>
    let (e, h) := h.call now c
    let (log, h) := h.run rest
    ((now, e) :: log, h)

theorem run_append (h : Heartbeat) (a b : List (Nat × Call)) :
    h.run (a ++ b) = ((h.run a).1 ++ ((h.run a).2.run b).1, ((h.run a).2.run b).2) := by
  induction a generalizing h with
  | nil => rfl
  | cons first rest ih => simp [run, ih]

/-- The log has one entry for each call, at its time. -/
theorem times_run (h : Heartbeat) (calls : List (Nat × Call)) :
    (h.run calls).1.map Prod.fst = calls.map Prod.fst := by
  induction calls generalizing h with
  | nil => rfl
  | cons first rest ih => simp [run, ih]

/-- An entry of the log is what came of a call, made after those before it. -/
theorem run_split {h : Heartbeat} {calls : List (Nat × Call)} {before after : List (Nat × Event)}
    {now : Nat} {e : Event} (hlog : (h.run calls).1 = before ++ (now, e) :: after) :
    ∃ earlier c later, calls = earlier ++ (now, c) :: later ∧ (h.run earlier).1 = before ∧
      ((h.run earlier).2.call now c).1 = e := by
  induction calls generalizing h before with
  | nil => simp [run] at hlog
  | cons first rest ih =>
    obtain ⟨time, c⟩ := first
    cases before with
    | nil =>
      simp only [run, List.nil_append, List.cons.injEq, Prod.mk.injEq] at hlog
      obtain ⟨⟨rfl, he⟩, -⟩ := hlog
      exact ⟨[], c, rest, rfl, rfl, he⟩
    | cons entry before =>
      simp only [run, List.cons_append, List.cons.injEq] at hlog
      obtain ⟨hfirst, hrest⟩ := hlog
      obtain ⟨earlier, c', later, rfl, hbefore, he⟩ := ih hrest
      exact ⟨(time, c) :: earlier, c', later, rfl, by simp [run, hbefore, hfirst], he⟩

/-! ## What a call comes to -/

/-- What a call comes to: the entry of the log, and the heartbeat afterwards. -/
inductive Comes (h : Heartbeat) (now : Nat) : Call → Event → Heartbeat → Prop where
  /-- The heartbeat starts over. -/
  | start (hi : h.interval ≠ 0) : Comes h now .start .started
      { h with running := true, outstanding := none, nextPing := some (now + h.interval) }
  /-- A heartbeat that is turned off does not start. -/
  | decline (hi : h.interval = 0) : Comes h now .start .started h
  /-- The heartbeat stops. -/
  | stop : Comes h now .stop .stopped h.stop
  /-- It is polled. -/
  | poll {a : HeartbeatAction} {h' : Heartbeat} (hp : Polls h now a h') :
      Comes h now .poll (eventOf a) h'
  /-- It takes an answer. -/
  | pong {payload : Value} {accepted : Bool} {h' : Heartbeat}
      (ht : Takes h payload now accepted h') :
      Comes h now (.pong payload) (if accepted then .accepted else .ignored) h'

/-- **A call comes to one of these.** -/
theorem comes_call (h : Heartbeat) (now : Nat) (c : Call) :
    Comes h now c (h.call now c).1 (h.call now c).2 := by
  cases c with
  | start =>
    by_cases hi : h.interval = 0
    · have hstart : h.call now .start = (.started, h) := by simp [call, start, isEnabled, hi]
      rw [hstart]
      exact .decline hi
    · have hstart : h.call now .start = (.started, { h with
          running := true, outstanding := none, nextPing := some (now + h.interval) }) := by
        simp [call, start, isEnabled, hi]
      rw [hstart]
      exact .start hi
  | stop => exact .stop
  | poll => exact .poll (polls_poll h now)
  | pong payload => exact .pong (takes_onPong h payload now)

/-- The two spans that a heartbeat was made with. -/
def settings (h : Heartbeat) : Nat × Nat :=
  (h.interval, h.pongTimeout)

theorem Comes.settings {h h' : Heartbeat} {now : Nat} {c : Call} {e : Event}
    (hc : Comes h now c e h') : h'.settings = h.settings := by
  cases hc with
  | poll hp => cases hp <;> rfl
  | pong ht => cases ht <;> rfl
  | _ => rfl

@[simp] theorem interval_start (h : Heartbeat) (now : Nat) :
    (h.start now).interval = h.interval :=
  congrArg Prod.fst (comes_call h now .start).settings

@[simp] theorem interval_poll (h : Heartbeat) (now : Nat) :
    (h.poll now).2.interval = h.interval :=
  congrArg Prod.fst (comes_call h now .poll).settings

@[simp] theorem interval_onPong (h : Heartbeat) (payload : Value) (now : Nat) :
    (h.onPong payload now).2.interval = h.interval :=
  congrArg Prod.fst (comes_call h now (.pong payload)).settings

/-- Starting sets a heartbeat going, unless it is turned off. -/
theorem running_start {h : Heartbeat} (hs : h.running = false) {now : Nat} :
    (h.start now).running = true ↔ h.interval ≠ 0 := by
  unfold start isEnabled
  split
  · rename_i hi
    simpa using hi
  · rename_i hi
    simpa [hs] using hi

/-- A heartbeat that does not give up goes on as it was. -/
theorem Polls.running {h h' : Heartbeat} {now : Nat} {a : HeartbeatAction}
    (hp : Polls h now a h') (ha : a ≠ .expired) : h'.running = h.running := by
  cases hp with
  | expire hout hpong => exact absurd rfl ha
  | _ => rfl

theorem Takes.running {h h' : Heartbeat} {payload : Value} {now : Nat} {accepted : Bool}
    (ht : Takes h payload now accepted h') : h'.running = h.running := by
  cases ht <;> rfl

/-- A heartbeat gives up when the wait for the outstanding ping is over. -/
theorem Comes.overdue {h h' : Heartbeat} {now : Nat} {c : Call} {e : Event}
    (hc : Comes h now c e h') (he : e = .expired) :
    ∃ p, h.outstanding = some p ∧ p.deadline ≤ now := by
  cases hc with
  | poll hp =>
    cases hp with
    | expire hout hpong => exact ⟨_, hout, hpong⟩
    | _ => exact absurd he nofun
  | pong ht => cases ht <;> exact absurd he nofun
  | _ => exact absurd he nofun

/-! ## Sound heartbeats -/

/-- What every call keeps. -/
structure Sound (h : Heartbeat) : Prop where
  /-- Only a heartbeat that is not turned off runs. -/
  enabled : h.running = true → h.interval ≠ 0
  /-- One that does not run plans nothing and waits for nothing. -/
  still : h.running = false → h.nextPing = none ∧ h.outstanding = none

theorem sound_new (interval pongTimeout : Nat) : Sound (new interval pongTimeout) where
  enabled := nofun
  still := fun _ => ⟨rfl, rfl⟩

/-- A heartbeat that waits for an answer runs. -/
theorem Sound.running {h : Heartbeat} (hs : h.Sound) {p : Ping} (hout : h.outstanding = some p) :
    h.running = true := by
  cases hr : h.running with
  | true => rfl
  | false => exact absurd ((hs.still hr).2.symm.trans hout) nofun

theorem Sound.comes {h h' : Heartbeat} (hs : h.Sound) {now : Nat} {c : Call} {e : Event}
    (hc : Comes h now c e h') : h'.Sound := by
  cases hc with
  | start hi => exact ⟨fun _ => hi, nofun⟩
  | decline hi => exact hs
  | stop => exact ⟨nofun, fun _ => ⟨rfl, rfl⟩⟩
  | poll hp =>
    cases hp with
    | off hr => exact hs
    | early hping hpong => exact hs
    | skip hping hdue hout hpong =>
      exact ⟨hs.enabled, fun hr => absurd ((hs.running hout).symm.trans hr) nofun⟩
    | send hr hping hdue hout => exact ⟨hs.enabled, fun hr' => absurd (hr.symm.trans hr') nofun⟩
    | expire hout hpong => exact ⟨nofun, fun _ => ⟨rfl, rfl⟩⟩
  | pong ht =>
    cases ht with
    | unasked hout => exact hs
    | stale hout ha => exact hs
    | answer hout ha => exact ⟨hs.enabled, fun hr => ⟨(hs.still hr).1, rfl⟩⟩

/-- **Whatever is called**, a heartbeat stays sound. -/
theorem Sound.run {h : Heartbeat} (hs : h.Sound) (calls : List (Nat × Call)) :
    (h.run calls).2.Sound := by
  induction calls generalizing h with
  | nil => exact hs
  | cons first rest ih => exact ih (hs.comes (comes_call h first.1 first.2))

/-! ## What is due -/

/-- Nothing is due at a time, nor before it. -/
def Ahead (h : Heartbeat) (now : Nat) : Prop :=
  ∀ due, h.nextDeadline = some due → now < due

theorem ahead_iff {h : Heartbeat} {now : Nat} :
    h.Ahead now ↔ h.running = true →
      (∀ due, h.nextPing = some due → now < due) ∧
      (∀ p, h.outstanding = some p → now < p.deadline) := by
  unfold Ahead nextDeadline
  cases h.running with
  | false => simp
  | true =>
    rw [if_pos rfl, Instant.lt_earliest_iff]
    simp

/-- What is planned for an interval from now lies ahead. -/
theorem lt_of_planned {now interval due : Nat} (hi : interval ≠ 0)
    (hplan : some (now + interval) = some due) : now < due := by
  obtain rfl := Option.some.inj hplan
  omega

/-- **A poll leaves nothing behind that is due.** -/
theorem Sound.ahead_polls {h h' : Heartbeat} (hs : h.Sound) {now : Nat} {a : HeartbeatAction}
    (hp : Polls h now a h') : h'.Ahead now := by
  rw [ahead_iff]
  cases hp with
  | off hr => exact fun hr' => absurd (hr.symm.trans hr') nofun
  | early hping hpong => exact fun _ => ⟨hping, hpong⟩
  | skip hping hdue hout hpong =>
    intro hr
    refine ⟨fun _ => lt_of_planned (hs.enabled hr), fun q hq => ?_⟩
    obtain rfl := Option.some.inj (hout.symm.trans hq)
    exact hpong
  | send hr hping hdue hout =>
    intro _
    refine ⟨fun _ => lt_of_planned (hs.enabled hr), fun q hq => ?_⟩
    simp only [awaited, Option.ite_none_left_eq_some, Option.some.injEq] at hq
    obtain ⟨htimeout, rfl⟩ := hq
    exact Nat.lt_add_of_pos_right (Nat.pos_of_ne_zero htimeout)
  | expire hout hpong => exact nofun

/-- What is not due is not due after any call at that time either. -/
theorem Sound.ahead_comes {h h' : Heartbeat} (hs : h.Sound) {now : Nat} (ha : h.Ahead now)
    {c : Call} {e : Event} (hc : Comes h now c e h') : h'.Ahead now := by
  cases hc with
  | start hi =>
    rw [ahead_iff]
    exact fun _ => ⟨fun _ => lt_of_planned hi, nofun⟩
  | decline hi => exact ha
  | stop => exact nofun
  | poll hp => exact hs.ahead_polls hp
  | pong ht =>
    cases ht with
    | unasked hout => exact ha
    | stale hout hans => exact ha
    | answer hout hans =>
      rw [ahead_iff] at ha ⊢
      exact fun hr => ⟨(ha hr).1, nofun⟩

end Heartbeat
end LiveSync
