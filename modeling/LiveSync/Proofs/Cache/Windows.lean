import LiveSync.Proofs.Cache.Upkeep

/-!
# The bursts of a slot

The payloads of a rule with a window are gathered by slot.  Over any run of events that are taken
in and timers that fire, what happens in a slot is a row of bursts: one payload finds the slot empty
and arms a timer, others join it until that timer fires, and then the last one is applied.

* `Timely` — the runs that a clock allows: each timer fires when it is due.
* `Sync.tale` — what happens in a slot, as a list of entries.
* `Burst`, `Bridge.Underway` — a burst, and the state of a slot with its burst under way.
* `Sync.told_of_timely` — the tale of a slot is made of bursts.
* `Shadow`, `Sync.tale_filter` — the tale of a slot is the same without all that happens elsewhere.
* `InBursts`, `inBursts_of_timely` — the two together, with what is done to the store.
-/

namespace LiveSync.Cache

open LiveSync.Json

/-! ## Where payloads are gathered -/

/-- The slot of a payload and the window of its rule, if its rule has one. -/
def RuleTable.place? (rules : RuleTable) (event : String) (payload : Value) : Option (Slot × Nat) :=
  (rules.rule? event).bind fun rule =>
    rule.window?.map fun window => (⟨event, rule.detailKey payload⟩, window)

/-- The slots of an event have the window of its rule. -/
theorem RuleTable.window_of_place? {rules : RuleTable} {event : String} {payload : Value}
    {slot : Slot} {w window : Nat} {rule : Rule} (h : rules.place? event payload = some (slot, w))
    (hrule : rules.rule? slot.event = some rule) (hwindow : rule.window? = some window) :
    w = window := by
  obtain ⟨r, hr, hplace⟩ := Option.bind_eq_some_iff.1 h
  obtain ⟨w', hw', heq⟩ := Option.map_eq_some_iff.1 hplace
  obtain ⟨rfl, rfl⟩ := Prod.mk.inj heq
  obtain rfl := Option.some.inj (hr.symm.trans hrule)
  exact Option.some.inj (hw'.symm.trans hwindow)

namespace Bridge

/-- What taking an event in does to the bursts: the payload waits in its slot, and a timer is armed
if none waited there. -/
theorem handle_snd (b : Bridge) (store : Store) (event : String) (payload : Value)
    (now order : Nat) :
    (b.handle store event payload now order).2 =
      match b.rules.place? event payload with
      | none => b
      | some (slot, window) =>
        if (b.pending? slot).isSome then b.await slot payload
        else { b.await slot payload with timers := b.timers ++ [⟨now + window, order, slot⟩] } := by
  simp only [handle, RuleTable.place?]
  cases b.rules.rule? event with
  | none => rfl
  | some rule =>
    cases hw : rule.window? with
    | none => simp [hw]
    | some window =>
      simp only [hw, Option.bind_some, Option.map_some]
      split <;> rfl

theorem pending?_handle (b : Bridge) (store : Store) (event : String) (payload : Value)
    (now order : Nat) (slot : Slot) :
    (b.handle store event payload now order).2.pending? slot =
      if (b.rules.place? event payload).map (·.1) = some slot then some payload
      else b.pending? slot := by
  rw [handle_snd]
  cases b.rules.place? event payload with
  | none => simp
  | some place =>
    simp only [Option.map_some, Option.some.injEq, ← pending?_await]
    split <;> rfl

/-- Only a payload that finds its slot empty arms a timer, and only there. -/
theorem timers_handle (b : Bridge) (store : Store) (event : String) (payload : Value)
    (now order : Nat) :
    (b.handle store event payload now order).2.timers = b.timers ++
      (((b.rules.place? event payload).filter fun x => (b.pending? x.1).isNone).map
        fun x => ⟨now + x.2, order, x.1⟩).toList := by
  rw [handle_snd]
  cases b.rules.place? event payload with
  | none => simp
  | some place =>
    cases hp : b.pending? place.1 <;> simp [hp, Option.filter, await]

/-- The timers of a slot after one has fired. -/
theorem slotTimers_fire (b : Bridge) (store : Store) (timer : BurstTimer) (slot : Slot) :
    (b.fire store timer).2.timers.filter (·.slot = slot) =
      (b.timers.filter (·.slot = slot)).filter (· ≠ timer) := by
  rw [timers_fire, List.filter_filter, List.filter_filter]
  exact List.filter_congr fun t _ => Bool.and_comm _ _

/-- A payload of another slot, or of none, leaves a slot as it is. -/
theorem handle_elsewhere (b : Bridge) (store : Store) {event : String} {payload : Value}
    {slot : Slot} (hplace : (b.rules.place? event payload).map (·.1) ≠ some slot)
    (now order : Nat) :
    (b.handle store event payload now order).2.pending? slot = b.pending? slot ∧
      (b.handle store event payload now order).2.timers.filter (·.slot = slot) =
        b.timers.filter (·.slot = slot) := by
  constructor
  · rw [pending?_handle, if_neg hplace]
  · rw [timers_handle]
    cases hp : b.rules.place? event payload with
    | none => simp
    | some place =>
      have hne : place.1 ≠ slot := fun hc => hplace (by rw [hp, ← hc]; rfl)
      cases hw : b.pending? place.1 <;> simp [hw, hne, Option.filter]

/-- The timer of another slot leaves a slot as it is. -/
theorem fire_elsewhere (b : Bridge) (store : Store) {timer : BurstTimer} {slot : Slot}
    (hslot : timer.slot ≠ slot) :
    (b.fire store timer).2.pending? slot = b.pending? slot ∧
      (b.fire store timer).2.timers.filter (·.slot = slot) =
        b.timers.filter (·.slot = slot) := by
  constructor
  · rw [pending?_fire, if_neg hslot]
  · rw [slotTimers_fire]
    refine List.filter_eq_self.2 fun t ht => ?_
    have hne : t ≠ timer := fun hc => hslot (by simpa [hc] using (List.mem_filter.1 ht).2)
    simpa using hne

end Bridge

/-! ## Runs and tales -/

/-- A run of events that are taken in and timers that fire, from an instant on.  The clock never
goes back, and each timer fires when it is due; those that are due at one instant fire in any order,
and events that are taken in at that instant may come before or after. -/
inductive Timely : Nat → Sync → List Act → Prop where
  | nil {clock : Nat} {s : Sync} : Timely clock s []
  | handle {clock : Nat} {s : Sync} {now order : Nat} {event : String} {payload : Value}
      {rest : List Act} (hclock : clock ≤ now) (hdue : ∀ t ∈ s.timers, now ≤ t.due)
      (hrest : Timely now (s.handle now order event payload) rest) :
      Timely clock s (.handle now order event payload :: rest)
  | fire {clock : Nat} {s : Sync} {timer : BurstTimer} {rest : List Act}
      (hclock : clock ≤ timer.due) (harmed : timer ∈ s.timers)
      (hdue : ∀ t ∈ s.timers, timer.due ≤ t.due)
      (hrest : Timely timer.due (s.fire timer.due timer) rest) :
      Timely clock s (.fire timer.due timer :: rest)

/-- What happens in a slot. -/
inductive Entry where
  /-- A payload is taken in and finds the slot empty. -/
  | opened (time : Nat) (payload : Value)
  /-- A payload is taken in and takes the place of the one that waits. -/
  | joined (time : Nat) (payload : Value)
  /-- A payload is applied. -/
  | applied (time : Nat) (payload : Value)
  deriving DecidableEq

/-- What happens in a slot of a bridge. -/
def Bridge.entries (b : Bridge) (slot : Slot) : Act → List Entry
  | .handle now _ event payload =>
    if (b.rules.place? event payload).map (·.1) = some slot then
      [if (b.pending? slot).isSome then .joined now payload else .opened now payload]
    else []
  | .fire now timer =>
    if timer.slot = slot then
      ((b.applied? (.fire now timer)).map fun x => .applied now x.2).toList
    else []
  | _ => []

namespace Sync

/-- What waits in a slot. -/
def pending? (s : Sync) (slot : Slot) : Option Value :=
  s.bridge.bind fun b => b.pending? slot

/-- What happens in a slot. -/
def entries (s : Sync) (slot : Slot) (act : Act) : List Entry :=
  (s.bridge.map fun b => b.entries slot act).getD []

/-- What happens in a slot during a run. -/
def tale (slot : Slot) (s : Sync) : List Act → List Entry
  | [] => []
  | act :: rest => s.entries slot act ++ tale slot (s.perform act) rest

end Sync

/-! ## Bursts -/

/-- Payloads of a slot of which only the last counts, with the times at which they were taken in. -/
structure Burst where
  /-- The one that found the slot empty. -/
  first : Nat × Value
  /-- Those that joined it. -/
  later : List (Nat × Value) := []

namespace Burst

/-- The last payload. -/
def last (x : Burst) : Value :=
  (x.later.getLast?.getD x.first).2

/-- One more payload. -/
def join (x : Burst) (time : Nat) (payload : Value) : Burst :=
  { x with later := x.later ++ [(time, payload)] }

/-- How the payloads were taken in. -/
def arrivals (x : Burst) : List Entry :=
  .opened x.first.1 x.first.2 :: x.later.map fun y => .joined y.1 y.2

/-- All that happens: the payloads are taken in, and when the window is over the last one is
applied. -/
def whole (window : Nat) (x : Burst) : List Entry :=
  x.arrivals ++ [.applied (x.first.1 + window) x.last]

/-- All payloads are taken in before the window is over. -/
def Within (window : Nat) (x : Burst) : Prop :=
  ∀ y ∈ x.later, x.first.1 ≤ y.1 ∧ y.1 ≤ x.first.1 + window

@[simp] theorem last_join (x : Burst) (time : Nat) (payload : Value) :
    (x.join time payload).last = payload := by
  simp [last, join]

@[simp] theorem first_join (x : Burst) (time : Nat) (payload : Value) :
    (x.join time payload).first = x.first := rfl

theorem arrivals_join (x : Burst) (time : Nat) (payload : Value) :
    (x.join time payload).arrivals = x.arrivals ++ [.joined time payload] := by
  simp [arrivals, join]

theorem within_join {window : Nat} {x : Burst} (h : x.Within window) {time : Nat}
    (hfirst : x.first.1 ≤ time) (hlast : time ≤ x.first.1 + window) (payload : Value) :
    (x.join time payload).Within window := by
  intro y hy
  rcases List.mem_append.1 hy with hy | hy
  · exact h y hy
  · obtain rfl := List.mem_singleton.1 hy
    exact ⟨hfirst, hlast⟩

end Burst

namespace Bridge

/-- The state of a slot at an instant, with its burst if one is under way: the last payload waits,
and there is one timer, which is due when the window of the burst is over. -/
structure Underway (b : Bridge) (slot : Slot) (window clock : Nat) (burst : Option Burst) :
    Prop where
  /-- The last payload waits. -/
  waiting : b.pending? slot = burst.map Burst.last
  /-- There is one timer for a burst, and none without. -/
  armed : (b.timers.filter (·.slot = slot)).map (·.due) = burst.toList.map (·.first.1 + window)
  /-- The payloads came within the window. -/
  within : ∀ x ∈ burst, x.Within window
  /-- The burst has begun. -/
  begun : ∀ x ∈ burst, x.first.1 ≤ clock

section

variable {b : Bridge} {slot : Slot} {window clock : Nat} {burst : Option Burst}

/-- A timer of the slot belongs to its burst. -/
theorem Underway.burst_of_timer (h : b.Underway slot window clock burst) {t : BurstTimer}
    (ht : t ∈ b.timers) (hslot : t.slot = slot) :
    ∃ x, burst = some x ∧ t.due = x.first.1 + window := by
  have hdue : t.due ∈ (b.timers.filter (·.slot = slot)).map (·.due) :=
    List.mem_map_of_mem (List.mem_filter.2 ⟨ht, by simpa using hslot⟩)
  rw [h.armed] at hdue
  cases burst with
  | none => simp at hdue
  | some x => exact ⟨x, rfl, by simpa using hdue⟩

/-- A burst has its timer. -/
theorem Underway.timer_of_burst {x : Burst} (h : b.Underway slot window clock (some x)) :
    ∃ t ∈ b.timers, t.slot = slot ∧ t.due = x.first.1 + window := by
  have hdue : x.first.1 + window ∈ (b.timers.filter (·.slot = slot)).map (·.due) := by
    rw [h.armed]
    simp
  obtain ⟨t, ht, htdue⟩ := List.mem_map.1 hdue
  obtain ⟨hmem, hslot⟩ := List.mem_filter.1 ht
  exact ⟨t, hmem, by simpa using hslot, htdue⟩

/-- What happens in other slots makes no difference. -/
theorem Underway.elsewhere (h : b.Underway slot window clock burst) {b' : Bridge} {now : Nat}
    (hclock : clock ≤ now) (hpending : b'.pending? slot = b.pending? slot)
    (htimers : b'.timers.filter (·.slot = slot) = b.timers.filter (·.slot = slot)) :
    b'.Underway slot window now burst where
  waiting := hpending.trans h.waiting
  armed := by rw [htimers, h.armed]
  within := h.within
  begun := fun x hx => Nat.le_trans (h.begun x hx) hclock

/-! ### One step -/

/-- A payload that finds the slot empty opens a burst. -/
theorem Underway.open_handle (h : b.Underway slot window clock none) (store : Store)
    {event : String} {payload : Value} (hplace : b.rules.place? event payload = some (slot, window))
    (now order : Nat) :
    b.entries slot (.handle now order event payload) = [.opened now payload] ∧
      (b.handle store event payload now order).2.Underway slot window now
        (some { first := (now, payload) }) := by
  have hempty : b.pending? slot = none := h.waiting
  refine ⟨by simp [entries, hplace, hempty], ?_⟩
  constructor
  case waiting =>
    rw [pending?_handle, hplace]
    simp [Burst.last]
  case armed =>
    rw [timers_handle, hplace]
    have hnone := h.armed
    simp only [Option.toList_none, List.map_nil, List.map_eq_nil_iff] at hnone
    simp [hempty, hnone, Option.filter]
  case within =>
    intro x hx y hy
    obtain rfl := Option.some.inj hx
    simp at hy
  case begun =>
    intro x hx
    obtain rfl := Option.some.inj hx
    exact Nat.le_refl now

/-- A payload that finds one waiting joins its burst. -/
theorem Underway.join_handle {x : Burst} (h : b.Underway slot window clock (some x))
    (store : Store) {event : String} {payload : Value}
    (hplace : b.rules.place? event payload = some (slot, window)) {now : Nat} (hclock : clock ≤ now)
    (hdue : ∀ t ∈ b.timers, now ≤ t.due) (order : Nat) :
    b.entries slot (.handle now order event payload) = [.joined now payload] ∧
      (b.handle store event payload now order).2.Underway slot window now
        (some (x.join now payload)) := by
  have hwaits : b.pending? slot = some x.last := h.waiting
  have hfirst : x.first.1 ≤ now := Nat.le_trans (h.begun x rfl) hclock
  have hlast : now ≤ x.first.1 + window := by
    obtain ⟨t, ht, -, htdue⟩ := h.timer_of_burst
    rw [← htdue]
    exact hdue t ht
  refine ⟨by simp [entries, hplace, hwaits], ?_⟩
  constructor
  case waiting =>
    rw [pending?_handle, hplace]
    simp
  case armed =>
    rw [timers_handle, hplace]
    simpa [hwaits, Option.filter] using h.armed
  case within =>
    intro y hy
    obtain rfl := Option.some.inj hy
    exact Burst.within_join (h.within x rfl) hfirst hlast payload
  case begun =>
    intro y hy
    obtain rfl := Option.some.inj hy
    exact hfirst

/-- A payload of another slot, or of none. -/
theorem Underway.skip_handle (h : b.Underway slot window clock burst) (store : Store)
    {event : String} {payload : Value}
    (hplace : (b.rules.place? event payload).map (·.1) ≠ some slot) {now : Nat}
    (hclock : clock ≤ now) (order : Nat) :
    b.entries slot (.handle now order event payload) = [] ∧
      (b.handle store event payload now order).2.Underway slot window now burst := by
  obtain ⟨hpending, htimers⟩ := b.handle_elsewhere store hplace now order
  exact ⟨by rw [entries, if_neg hplace], h.elsewhere hclock hpending htimers⟩

/-- The timer of the slot applies the last payload of its burst, which is over then. -/
theorem Underway.close_fire (h : b.Underway slot window clock burst) (store : Store)
    {timer : BurstTimer} (harmed : timer ∈ b.timers) (hslot : timer.slot = slot) {rule : Rule}
    (hrule : b.rules.rule? slot.event = some rule) :
    ∃ x, burst = some x ∧
      b.entries slot (.fire timer.due timer) = [.applied (x.first.1 + window) x.last] ∧
      (b.fire store timer).2.Underway slot window timer.due none := by
  obtain ⟨x, rfl, hdue⟩ := h.burst_of_timer harmed hslot
  have hwaits : b.pending? slot = some x.last := h.waiting
  refine ⟨x, rfl, by simp [entries, applied?, hslot, hwaits, hrule, hdue], ?_⟩
  constructor
  case waiting => rw [pending?_fire, if_pos hslot]; rfl
  case armed =>
    -- the slot had this timer and no other
    have hone := congrArg List.length h.armed
    simp only [List.length_map, Option.toList_some, List.length_singleton] at hone
    obtain ⟨t, ht⟩ := List.length_eq_one_iff.1 hone
    have hmem : timer ∈ b.timers.filter (·.slot = slot) :=
      List.mem_filter.2 ⟨harmed, by simpa using hslot⟩
    rw [ht] at hmem
    obtain rfl := List.mem_singleton.1 hmem
    rw [slotTimers_fire, ht]
    simp
  case within => intro y hy; contradiction
  case begun => intro y hy; contradiction

/-- The timer of another slot. -/
theorem Underway.skip_fire (h : b.Underway slot window clock burst) (store : Store)
    {timer : BurstTimer} (hclock : clock ≤ timer.due) (hslot : timer.slot ≠ slot) :
    b.entries slot (.fire timer.due timer) = [] ∧
      (b.fire store timer).2.Underway slot window timer.due burst := by
  obtain ⟨hpending, htimers⟩ := b.fire_elsewhere store hslot
  exact ⟨by rw [entries, if_neg hslot], h.elsewhere hclock hpending htimers⟩

end

end Bridge

/-! ### A whole run -/

namespace Sync

section

variable {s : Sync} {b : Bridge} {slot : Slot}

theorem bridge_handle (hb : s.bridge = some b) (now order : Nat) (event : String)
    (payload : Value) :
    (s.handle now order event payload).bridge =
      some (b.handle s.store event payload now order).2 := by
  simp only [handle, hb]
  rfl

theorem bridge_fire (hb : s.bridge = some b) (now : Nat) (timer : BurstTimer) :
    (s.fire now timer).bridge = some (b.fire s.store timer).2 := by
  simp only [fire, hb]
  rfl

theorem timers_of_bridge (hb : s.bridge = some b) : s.timers = b.timers := by
  simp only [timers, hb, Option.map_some, Option.getD_some]

theorem tale_cons (hb : s.bridge = some b) (act : Act) (rest : List Act) :
    tale slot s (act :: rest) = b.entries slot act ++ tale slot (s.perform act) rest := by
  simp only [tale, entries, hb, Option.map_some, Option.getD_some]

/-- A tale is made of bursts, the first of which is under way at the start, and in the end the
bridge is as the last one leaves it. -/
def Told (slot : Slot) (window : Nat) (burst : Option Burst) (s : Sync) (acts : List Act) : Prop :=
  ∃ (closed : List Burst) (current : Option Burst) (clock : Nat) (b : Bridge),
    (s.after acts).bridge = some b ∧ b.Underway slot window clock current ∧
    (∀ x ∈ closed, x.Within window) ∧
    burst.toList.flatMap Burst.arrivals ++ tale slot s acts =
      closed.flatMap (Burst.whole window) ++ current.toList.flatMap Burst.arrivals

/-- What happens adds to the burst, or begins it, or is no part of it. -/
theorem Told.grow {window : Nat} {burst burst' : Option Burst} {act : Act} {rest : List Act}
    (hb : s.bridge = some b)
    (hentries : burst.toList.flatMap Burst.arrivals ++ b.entries slot act =
      burst'.toList.flatMap Burst.arrivals)
    (h : Told slot window burst' (s.perform act) rest) :
    Told slot window burst s (act :: rest) := by
  obtain ⟨closed, current, clock, b', hfinal, hunder, hwithin, htale⟩ := h
  refine ⟨closed, current, clock, b', hfinal, hunder, hwithin, ?_⟩
  rw [tale_cons hb, ← List.append_assoc, hentries, htale]

/-- The burst is over. -/
theorem Told.close {window : Nat} {x : Burst} {act : Act} {rest : List Act}
    (hb : s.bridge = some b) (hx : x.Within window)
    (hentries : b.entries slot act = [.applied (x.first.1 + window) x.last])
    (h : Told slot window none (s.perform act) rest) :
    Told slot window (some x) s (act :: rest) := by
  obtain ⟨closed, current, clock, b', hfinal, hunder, hwithin, htale⟩ := h
  refine ⟨x :: closed, current, clock, b', hfinal, hunder,
    List.forall_mem_cons.2 ⟨hx, hwithin⟩, ?_⟩
  rw [tale_cons hb, hentries, List.flatMap_cons, List.append_assoc, ← htale]
  simp [Burst.whole]

/-- **The tale of a slot is made of bursts.** -/
theorem told_of_timely {clock window : Nat} {acts : List Act} (hrun : Timely clock s acts)
    (hb : s.bridge = some b) {rule : Rule} (hrule : b.rules.rule? slot.event = some rule)
    (hwindow : rule.window? = some window) {burst : Option Burst}
    (h : b.Underway slot window clock burst) : Told slot window burst s acts := by
  induction hrun generalizing b burst with
  | @nil clock s => exact ⟨[], burst, clock, b, hb, h, by simp, by simp [tale]⟩
  | @handle clock s now order event payload rest hclock hdue _ ih =>
    have hb' := bridge_handle hb now order event payload
    have hrule' := (b.rules_handle s.store event payload now order).symm ▸ hrule
    rw [timers_of_bridge hb] at hdue
    by_cases hplace : (b.rules.place? event payload).map (·.1) = some slot
    · obtain ⟨⟨slot, w⟩, hsome, rfl⟩ := Option.map_eq_some_iff.1 hplace
      obtain rfl := RuleTable.window_of_place? hsome hrule hwindow
      cases burst with
      | none =>
        obtain ⟨hentries, hstep⟩ := h.open_handle s.store hsome now order
        exact .grow hb (by rw [hentries]; rfl) (ih hb' hrule' hstep)
      | some x =>
        obtain ⟨hentries, hstep⟩ := h.join_handle s.store hsome hclock hdue order
        exact .grow hb (by simp [hentries, Burst.arrivals_join]) (ih hb' hrule' hstep)
    · obtain ⟨hentries, hstep⟩ := h.skip_handle s.store hplace hclock order
      exact .grow hb (by simp [hentries]) (ih hb' hrule' hstep)
  | @fire clock s timer rest hclock harmed hdue _ ih =>
    have hb' := bridge_fire hb timer.due timer
    have hrule' := (b.rules_fire s.store timer).symm ▸ hrule
    rw [timers_of_bridge hb] at harmed
    by_cases hslot : timer.slot = slot
    · obtain ⟨x, rfl, hentries, hstep⟩ := h.close_fire s.store harmed hslot hrule
      exact .close hb (h.within x rfl) hentries (ih hb' hrule' hstep)
    · obtain ⟨hentries, hstep⟩ := h.skip_fire s.store hclock hslot
      exact .grow hb (by simp [hentries]) (ih hb' hrule' hstep)

end

end Sync

/-! ## One slot by itself -/

/-- Does something happen in a slot? -/
def Act.concerns (rules : RuleTable) (slot : Slot) : Act → Bool
  | .handle _ _ event payload => (rules.place? event payload).map (·.1) = some slot
  | .fire _ timer => timer.slot = slot
  | _ => false

theorem Timely.mono {clock clock' : Nat} {s : Sync} {acts : List Act} (h : Timely clock' s acts)
    (hle : clock ≤ clock') : Timely clock s acts := by
  cases h with
  | nil => exact .nil
  | handle hclock hdue hrest => exact .handle (Nat.le_trans hle hclock) hdue hrest
  | fire hclock harmed hdue hrest => exact .fire (Nat.le_trans hle hclock) harmed hdue hrest

/-- A bridge on which there is nothing but one slot of another. -/
structure Shadow (slot : Slot) (b b' : Bridge) : Prop where
  /-- The rules are the same. -/
  rules : b'.rules = b.rules
  /-- The same payload waits. -/
  waiting : b'.pending? slot = b.pending? slot
  /-- The timers are those of the slot. -/
  armed : b'.timers = b.timers.filter (·.slot = slot)

namespace Shadow

variable {slot : Slot} {b b' : Bridge}

theorem entries_eq (h : Shadow slot b b') (act : Act) :
    b'.entries slot act = b.entries slot act := by
  cases act with
  | handle now order event payload => simp only [Bridge.entries, h.rules, h.waiting]
  | fire now timer =>
    simp only [Bridge.entries, Bridge.applied?]
    by_cases hslot : timer.slot = slot
    · rw [if_pos hslot, if_pos hslot, hslot, h.rules, h.waiting]
    · rw [if_neg hslot, if_neg hslot]
  | _ => rfl

/-- A payload of the slot comes in on both. -/
theorem handle (h : Shadow slot b b') (store store' : Store) {event : String} {payload : Value}
    (hplace : (b.rules.place? event payload).map (·.1) = some slot) (now order : Nat) :
    Shadow slot (b.handle store event payload now order).2
      (b'.handle store' event payload now order).2 where
  rules := by rw [Bridge.rules_handle, Bridge.rules_handle, h.rules]
  waiting := by rw [Bridge.pending?_handle, Bridge.pending?_handle, h.rules, if_pos hplace,
    if_pos hplace]
  armed := by
    obtain ⟨place, hp, rfl⟩ := Option.map_eq_some_iff.1 hplace
    rw [Bridge.timers_handle, Bridge.timers_handle, h.rules, h.armed, List.filter_append, hp]
    cases hw : b.pending? place.1 <;> simp [Option.filter, h.waiting, hw]

/-- A payload comes in elsewhere. -/
theorem handle_elsewhere (h : Shadow slot b b') (store : Store) {event : String} {payload : Value}
    (hplace : (b.rules.place? event payload).map (·.1) ≠ some slot) (now order : Nat) :
    Shadow slot (b.handle store event payload now order).2 b' := by
  obtain ⟨hpending, htimers⟩ := b.handle_elsewhere store hplace now order
  exact ⟨h.rules.trans (b.rules_handle store event payload now order).symm,
    h.waiting.trans hpending.symm, h.armed.trans htimers.symm⟩

/-- The timer of the slot fires on both. -/
theorem fire (h : Shadow slot b b') (store store' : Store) {timer : BurstTimer}
    (hslot : timer.slot = slot) :
    Shadow slot (b.fire store timer).2 (b'.fire store' timer).2 where
  rules := by rw [Bridge.rules_fire, Bridge.rules_fire, h.rules]
  waiting := by rw [Bridge.pending?_fire, Bridge.pending?_fire, if_pos hslot, if_pos hslot]
  armed := by rw [Bridge.slotTimers_fire, Bridge.timers_fire, h.armed]

/-- A timer fires elsewhere. -/
theorem fire_elsewhere (h : Shadow slot b b') (store : Store) {timer : BurstTimer}
    (hslot : timer.slot ≠ slot) : Shadow slot (b.fire store timer).2 b' := by
  obtain ⟨hpending, htimers⟩ := b.fire_elsewhere store hslot
  exact ⟨h.rules.trans (b.rules_fire store timer).symm, h.waiting.trans hpending.symm,
    h.armed.trans htimers.symm⟩

end Shadow

namespace Sync

/-- **Slots do not influence one another.**  Without all that happens elsewhere a run is still
timely, and the tale of the slot is the same. -/
theorem tale_filter {slot : Slot} {clock : Nat} {s s' : Sync} {acts : List Act}
    (hrun : Timely clock s acts) {b b' : Bridge} (hb : s.bridge = some b)
    (hb' : s'.bridge = some b') (h : Shadow slot b b') :
    Timely clock s' (acts.filter (·.concerns b.rules slot)) ∧
      tale slot s' (acts.filter (·.concerns b.rules slot)) = tale slot s acts := by
  induction hrun generalizing b b' s' with
  | nil => exact ⟨.nil, rfl⟩
  | @handle clock s now order event payload rest hclock hdue _ ih =>
    have hnext := bridge_handle hb now order event payload
    have hrules := b.rules_handle s.store event payload now order
    by_cases hplace : (b.rules.place? event payload).map (·.1) = some slot
    · have hkept : (Act.handle now order event payload).concerns b.rules slot = true := by
        simpa [Act.concerns] using hplace
      obtain ⟨hrun', htale⟩ := ih hnext (bridge_handle hb' now order event payload)
        (h.handle s.store s'.store hplace now order)
      rw [hrules] at hrun' htale
      rw [List.filter_cons_of_pos hkept, tale_cons hb, tale_cons hb', h.entries_eq]
      refine ⟨.handle hclock ?_ hrun', congrArg _ htale⟩
      intro t ht
      rw [timers_of_bridge hb', h.armed] at ht
      exact hdue t (by rw [timers_of_bridge hb]; exact (List.mem_filter.1 ht).1)
    · have hdropped : ¬ (Act.handle now order event payload).concerns b.rules slot = true := by
        simpa [Act.concerns] using hplace
      obtain ⟨hrun', htale⟩ := ih hnext hb' (h.handle_elsewhere s.store hplace now order)
      rw [hrules] at hrun' htale
      rw [List.filter_cons_of_neg hdropped, tale_cons hb, Bridge.entries, if_neg hplace]
      exact ⟨hrun'.mono hclock, htale⟩
  | @fire clock s timer rest hclock harmed hdue _ ih =>
    have hnext := bridge_fire hb timer.due timer
    have hrules := b.rules_fire s.store timer
    by_cases hslot : timer.slot = slot
    · have hkept : (Act.fire timer.due timer).concerns b.rules slot = true := by
        simpa [Act.concerns] using hslot
      obtain ⟨hrun', htale⟩ := ih hnext (bridge_fire hb' timer.due timer)
        (h.fire s.store s'.store hslot)
      rw [hrules] at hrun' htale
      rw [List.filter_cons_of_pos hkept, tale_cons hb, tale_cons hb', h.entries_eq]
      refine ⟨.fire hclock ?_ ?_ hrun', congrArg _ htale⟩
      · rw [timers_of_bridge hb] at harmed
        rw [timers_of_bridge hb', h.armed]
        exact List.mem_filter.2 ⟨harmed, by simpa using hslot⟩
      · intro t ht
        rw [timers_of_bridge hb', h.armed] at ht
        exact hdue t (by rw [timers_of_bridge hb]; exact (List.mem_filter.1 ht).1)
    · have hdropped : ¬ (Act.fire timer.due timer).concerns b.rules slot = true := by
        simpa [Act.concerns] using hslot
      obtain ⟨hrun', htale⟩ := ih hnext hb' (h.fire_elsewhere s.store hslot)
      rw [hrules] at hrun' htale
      rw [List.filter_cons_of_neg hdropped, tale_cons hb, Bridge.entries, if_neg hslot]
      exact ⟨hrun'.mono hclock, htale⟩

end Sync

/-! ## The result -/

/-- What comes of something that happens in a slot. -/
def Entry.ops (rule : Rule) (store : Store) : Entry → List StoreOp
  | .applied _ payload => (applyRule rule store payload).2
  | _ => []

/-- Nothing touches the store in a slot but the payloads that its tale calls applied. -/
theorem Sync.opsOf_eq_entries {s : Sync} {b : Bridge} (hb : s.bridge = some b) {slot : Slot}
    {rule : Rule} (hrule : b.rules.rule? slot.event = some rule) {window : Nat}
    (hwindow : rule.window? = some window) {act : Act} (hact : act.concerns b.rules slot) :
    s.opsOf act = (s.entries slot act).flatMap (Entry.ops rule s.store) := by
  simp only [opsOf, applied?, entries, hb, Option.bind_some, Option.map_some, Option.getD_some]
  cases act with
  | handle now order event payload =>
    have hplace : (b.rules.place? event payload).map (·.1) = some slot := by
      simpa [Act.concerns] using hact
    have hevent : b.rules.rule? event = some rule := by
      obtain ⟨place, hp, rfl⟩ := Option.map_eq_some_iff.1 hplace
      obtain ⟨r, hr, hr'⟩ := Option.bind_eq_some_iff.1 hp
      obtain ⟨w, -, rfl⟩ := Option.map_eq_some_iff.1 hr'
      exact hrule
    simp only [Bridge.applied?, Bridge.entries, hevent, if_pos hplace]
    cases b.pending? slot <;> simp [Entry.ops, Option.filter, hwindow]
  | fire now timer =>
    have hslot : timer.slot = slot := by simpa [Act.concerns] using hact
    simp only [Bridge.applied?, Bridge.entries, hslot, hrule]
    cases b.pending? slot <;> simp [Entry.ops]
  | _ => contradiction

/-- What is true of a slot after a run from a fresh bridge, if its rule has a window. -/
structure InBursts (rules : RuleTable) (store : Store) (clock : Nat) (acts : List Act)
    (slot : Slot) (rule : Rule) (window : Nat) : Prop where
  /-- The tale of the slot is a row of bursts, of which the last may be under way.  A burst is one
  payload that found the slot empty and those that joined it within the window; when the window is
  over the last one is applied.  Of a burst under way the last payload waits, and there is one
  timer, due when the window is over; without one nothing waits, and there is no timer. -/
  bursts : ∃ (closed : List Burst) (current : Option Burst),
    Sync.tale slot (.governed rules store) acts =
      closed.flatMap (Burst.whole window) ++ current.toList.flatMap Burst.arrivals ∧
    (∀ x ∈ closed ++ current.toList, x.Within window) ∧
    ((Sync.governed rules store).after acts).pending? slot = current.map Burst.last ∧
    (((Sync.governed rules store).after acts).timers.filter (·.slot = slot)).map (·.due) =
      current.toList.map (·.first.1 + window) ∧
    (((Sync.governed rules store).after acts).timers = [] → current = none)
  /-- What happens in the slot happens likewise by itself, without the other slots. -/
  apart : Timely clock (.governed rules store) (acts.filter (·.concerns rules slot)) ∧
    Sync.tale slot (.governed rules store) (acts.filter (·.concerns rules slot)) =
      Sync.tale slot (.governed rules store) acts
  /-- A payload that is applied is carried out by the rule, and until then it does nothing. -/
  carriedOut : ∀ before act later, acts = before ++ act :: later → act.concerns rules slot →
    ∀ s, s = (Sync.governed rules store).after before →
      (s.perform act).changes = s.changes ++
        ((s.entries slot act).flatMap (Entry.ops rule s.store)).map (⟨act.time?, ·⟩) ∧
      (s.perform act).store =
        s.store.applyAll ((s.entries slot act).flatMap (Entry.ops rule s.store))

theorem Act.alteration_of_concerns {rules : RuleTable} {slot : Slot} {act : Act}
    (h : act.concerns rules slot) (store : Store) : act.alteration store = store := by
  cases act with
  | alter change => contradiction
  | _ => rfl

/-- A run keeps its bridge. -/
theorem Timely.bridge_after {clock : Nat} {s : Sync} {acts before later : List Act}
    (h : Timely clock s acts) (hacts : acts = before ++ later) {b : Bridge}
    (hb : s.bridge = some b) :
    ∃ b', (s.after before).bridge = some b' ∧ b'.rules = b.rules := by
  induction before generalizing clock s acts b with
  | nil => exact ⟨b, hb, rfl⟩
  | cons act rest ih =>
    subst hacts
    cases h with
    | handle _ _ hrest =>
      obtain ⟨b', hb', hrules⟩ := ih hrest rfl (Sync.bridge_handle hb _ _ _ _)
      exact ⟨b', hb', hrules.trans (b.rules_handle ..)⟩
    | fire _ _ _ hrest =>
      obtain ⟨b', hb', hrules⟩ := ih hrest rfl (Sync.bridge_fire hb _ _)
      exact ⟨b', hb', hrules.trans (b.rules_fire ..)⟩

/-- **Gathering loses no burst and keeps its last payload.**  Take any rules and any run of events
that are taken in and timers that fire when they are due.  What happens in a slot whose rule has a
window is a row of bursts, each of which is applied once, with its last payload, when the window
that its first payload opened is over.  Once no timer is left, no burst is under way.  The slots do
not influence one another. -/
theorem inBursts_of_timely {rules : RuleTable} {store : Store} {clock : Nat} {acts : List Act}
    (hrun : Timely clock (.governed rules store) acts) {slot : Slot} {rule : Rule} {window : Nat}
    (hrule : rules.rule? slot.event = some rule) (hwindow : rule.window? = some window) :
    InBursts rules store clock acts slot rule window := by
  have hfresh : ({ rules := rules } : Bridge).Underway slot window clock none :=
    { waiting := rfl, armed := rfl, within := nofun, begun := nofun }
  have hshadow : Shadow slot { rules := rules } { rules := rules } :=
    { rules := rfl, waiting := rfl, armed := rfl }
  constructor
  case bursts =>
    obtain ⟨closed, current, clock', b, hfinal, hunder, hwithin, htale⟩ :=
      Sync.told_of_timely hrun rfl hrule hwindow hfresh
    have htimers := Sync.timers_of_bridge hfinal
    refine ⟨closed, current, htale, ?_, ?_, ?_, ?_⟩
    · intro x hx
      rcases List.mem_append.1 hx with hx | hx
      · exact hwithin x hx
      · exact hunder.within x (Option.mem_toList.1 hx)
    · rw [Sync.pending?, hfinal]
      exact hunder.waiting
    · rw [htimers]
      exact hunder.armed
    · intro hnone
      have harmed := hunder.armed
      rw [← htimers, hnone] at harmed
      cases current with
      | none => rfl
      | some x => simp at harmed
  case apart => exact Sync.tale_filter hrun rfl rfl hshadow
  case carriedOut =>
    rintro before act later hacts hact s rfl
    obtain ⟨b, hb, hrules⟩ := hrun.bridge_after hacts rfl
    rw [← Sync.opsOf_eq_entries hb (hrules ▸ hrule) hwindow (hrules ▸ hact)]
    obtain ⟨hchanges, hstore⟩ := Sync.perform_eq ((Sync.governed rules store).after before) act
    rw [Act.alteration_of_concerns hact] at hstore
    exact ⟨hchanges, hstore⟩

/-- Two reports of progress for one job, with one for another job in between: the first job gets
the later one, when the window that the earlier one opened is over. -/
theorem inBursts_progress :
    let report (id : String) (done : Nat) : Value :=
      .object [("done", .string (toString done)), ("jobId", .string id)]
    let slot (id : String) : Slot := ⟨EventName.jobProgress, some (Key.job id)⟩
    let timer : BurstTimer := ⟨progressWindow, 0, slot "J-1"⟩
    let acts : List Act := [.handle 0 0 EventName.jobProgress (report "J-1" 1),
      .handle (progressWindow / 2) 1 EventName.jobProgress (report "J-2" 3),
      .handle progressWindow 2 EventName.jobProgress (report "J-1" 2),
      .fire timer.due timer]
    let start := Sync.governed defaultRules {}
    ∃ rule, RuleTable.rule? defaultRules (slot "J-1").event = some rule ∧
      rule.window? = some progressWindow ∧ Timely 0 start acts ∧
      InBursts defaultRules {} 0 acts (slot "J-1") rule progressWindow ∧
      Sync.tale (slot "J-1") start acts = [.opened 0 (report "J-1" 1),
        .joined progressWindow (report "J-1" 2), .applied progressWindow (report "J-1" 2)] := by
  intro report slot timer acts start
  have hrun : Timely 0 start acts :=
    .handle (by decide) (by decide +kernel) <| .handle (by decide) (by decide +kernel) <|
      .handle (by decide) (by decide +kernel) <|
      @Timely.fire _ _ timer [] (by decide) (by decide +kernel) (by decide +kernel) .nil
  exact ⟨_, rfl, rfl, hrun, inBursts_of_timely hrun rfl rfl, by decide +kernel⟩

end LiveSync.Cache
