import LiveSync.Cache.Station
import LiveSync.Proofs.Cache.Windows

/-!
# The clock of a station

A station takes events in and lets its clock run, which fires the timers that have become due, the
earliest first.  Its runs are timely, so that its slots are in bursts.

* `Bridge.nextTimer_spec` — the timer that fires next is due first.
* `Sync.elapses_fireUntil` — letting the clock run fires the timers that are due, and leaves none.
* `Station.timely`, `Station.timely_governed` — the runs of a station are timely.
-/

namespace LiveSync.Cache

open LiveSync.Json

/-! ## The next timer -/

namespace Bridge

/-- The better of two timers: the one that is due first, and of these the one armed first. -/
def sooner (best : Option BurstTimer) (t : BurstTimer) : Option BurstTimer :=
  match best with
  | none => some t
  | some s => if t.due < s.due ∨ (t.due = s.due ∧ t.order < s.order) then some t else some s

theorem sooner_spec (best : Option BurstTimer) (t : BurstTimer) :
    ∃ r, sooner best t = some r ∧ (r = t ∨ best = some r) ∧ r.due ≤ t.due ∧
      ∀ s ∈ best, r.due ≤ s.due := by
  cases best with
  | none => exact ⟨t, rfl, .inl rfl, Nat.le_refl _, nofun⟩
  | some s =>
    by_cases h : t.due < s.due ∨ (t.due = s.due ∧ t.order < s.order)
    · refine ⟨t, if_pos h, .inl rfl, Nat.le_refl _, fun s' hs' => ?_⟩
      obtain rfl := Option.some.inj hs'
      omega
    · refine ⟨s, if_neg h, .inr rfl, by omega, fun s' hs' => ?_⟩
      obtain rfl := Option.some.inj hs'
      exact Nat.le_refl _

theorem foldl_sooner {timers : List BurstTimer} {best : Option BurstTimer} {r : BurstTimer}
    (h : timers.foldl sooner best = some r) :
    (r ∈ timers ∨ best = some r) ∧ (∀ t ∈ timers, r.due ≤ t.due) ∧ ∀ s ∈ best, r.due ≤ s.due := by
  induction timers generalizing best with
  | nil =>
    refine ⟨.inr h, by simp, fun s hs => ?_⟩
    obtain rfl := Option.some.inj (h.symm.trans hs)
    exact Nat.le_refl _
  | cons t rest ih =>
    obtain ⟨first, hfirst, hfrom, hdue, hbest⟩ := sooner_spec best t
    obtain ⟨hmem, hrest, hle⟩ := ih h
    have hfirstdue := hle first hfirst
    refine ⟨?_, ?_, fun s hs => Nat.le_trans hfirstdue (hbest s hs)⟩
    · rcases hmem with hmem | hmem
      · exact .inl (List.mem_cons_of_mem t hmem)
      · obtain rfl := Option.some.inj (hfirst.symm.trans hmem)
        rcases hfrom with rfl | hfrom
        · exact .inl List.mem_cons_self
        · exact .inr hfrom
    · intro t' ht'
      rcases List.mem_cons.1 ht' with rfl | ht'
      · exact Nat.le_trans hfirstdue hdue
      · exact hrest t' ht'

theorem foldl_sooner_none {timers : List BurstTimer} {best : Option BurstTimer}
    (h : timers.foldl sooner best = none) : timers = [] ∧ best = none := by
  induction timers generalizing best with
  | nil => exact ⟨rfl, h⟩
  | cons t rest ih =>
    obtain ⟨r, hr, -⟩ := sooner_spec best t
    rw [List.foldl_cons, hr] at h
    exact absurd (ih h).2 nofun

/-- **The next timer** is armed, and it is due first. -/
theorem nextTimer_spec {b : Bridge} {t : BurstTimer} (h : b.nextTimer = some t) :
    t ∈ b.timers ∧ ∀ t' ∈ b.timers, t.due ≤ t'.due := by
  obtain ⟨hmem, hdue, -⟩ := @foldl_sooner b.timers none t h
  exact ⟨hmem.resolve_right nofun, hdue⟩

theorem timers_of_nextTimer_none {b : Bridge} (h : b.nextTimer = none) : b.timers = [] :=
  (@foldl_sooner_none b.timers none h).1

end Bridge

namespace Sync

/-- From one instant to another some timers fire, each when it is due, and none is left that was due
before. -/
def Elapses (clock deadline : Nat) (s s' : Sync) : Prop :=
  ∃ fires b', s' = s.after fires ∧ s'.bridge = some b' ∧ (∀ t ∈ b'.timers, deadline ≤ t.due) ∧
    ∀ rest, Timely deadline s' rest → Timely clock s (fires ++ rest)

section

variable {clock deadline : Nat} {s : Sync} {b : Bridge}

/-- Where no timer is due, none fires. -/
theorem elapses_refl (hb : s.bridge = some b) (hle : clock ≤ deadline)
    (hdue : ∀ t ∈ b.timers, deadline ≤ t.due) : Elapses clock deadline s s :=
  ⟨[], b, rfl, hb, hdue, fun _ hrest => hrest.mono hle⟩

theorem Elapses.fire {s' : Sync} {t : BurstTimer} (hclock : clock ≤ t.due) (harmed : t ∈ s.timers)
    (hfirst : ∀ t' ∈ s.timers, t.due ≤ t'.due)
    (h : Elapses t.due deadline (s.fire t.due t) s') : Elapses clock deadline s s' := by
  obtain ⟨fires, b', heq, hb', hleft, hrun⟩ := h
  exact ⟨.fire t.due t :: fires, b', heq, hb', hleft,
    fun rest hrest => .fire hclock harmed hfirst (hrun rest hrest)⟩

/-- **Letting the clock run** fires the timers that are due. -/
theorem elapses_fireUntil {count : Nat} (hb : s.bridge = some b)
    (hcount : b.timers.length ≤ count) (hle : clock ≤ deadline)
    (hdue : ∀ t ∈ b.timers, clock ≤ t.due) :
    Elapses clock deadline s (s.fireUntil deadline count) := by
  induction count generalizing clock s b with
  | zero =>
    have hnone : b.timers = [] := List.length_eq_zero_iff.1 (Nat.le_zero.1 hcount)
    exact elapses_refl hb hle (by simp [hnone])
  | succ count ih =>
    have hnext : s.nextTimer = b.nextTimer := by simp only [nextTimer, hb, Option.bind_some]
    simp only [fireUntil, hnext]
    cases hn : b.nextTimer with
    | none => exact elapses_refl hb hle (by simp [Bridge.timers_of_nextTimer_none hn])
    | some t =>
      obtain ⟨hmem, hfirst⟩ := Bridge.nextTimer_spec hn
      by_cases hlate : t.due ≤ deadline
      · simp only [if_pos hlate]
        have hfewer : (b.timers.filter (· ≠ t)).length < b.timers.length :=
          List.length_filter_lt_length_iff_exists.2 ⟨t, hmem, by simp⟩
        rw [← timers_of_bridge hb] at hmem hfirst
        refine .fire (hdue t (timers_of_bridge hb ▸ hmem)) hmem hfirst
          (ih (bridge_fire hb t.due t) ?_ hlate ?_)
        · rw [Bridge.timers_fire]
          omega
        · intro t' ht'
          rw [Bridge.timers_fire, ← timers_of_bridge hb] at ht'
          exact hfirst t' (List.mem_filter.1 ht').1
      · simp only [if_neg hlate]
        refine elapses_refl hb hle fun t' ht' => ?_
        have := hfirst t' ht'
        omega

end

end Sync

/-! ## Stations -/

namespace Station

/-- What is asked of a station. -/
inductive Call where
  /-- Take an event in. -/
  | handle (event : String) (payload : Value)
  /-- Let the clock run. -/
  | advance (span : Nat)

/-- Do what is asked. -/
def call (s : Station) : Call → Station
  | .handle event payload => s.handle event payload
  | .advance span => s.advance span

/-- A bridge with some rules, and a store. -/
def governed (rules : RuleTable) (store : Store) : Station :=
  { sync := .governed rules store }

/-- **The runs of a station are timely.** -/
theorem timely {s : Station} {b : Bridge} (hb : s.sync.bridge = some b)
    (hdue : ∀ t ∈ b.timers, s.now ≤ t.due) (calls : List Call) :
    ∃ acts, Timely s.now s.sync acts ∧ (calls.foldl call s).sync = s.sync.after acts := by
  induction calls generalizing s b with
  | nil => exact ⟨[], .nil, rfl⟩
  | cons c rest ih =>
    cases c with
    | handle event payload =>
      have hb' : (s.handle event payload).sync.bridge = _ :=
        Sync.bridge_handle hb s.now s.armed event payload
      have hdue' : ∀ t ∈ (b.handle s.sync.store event payload s.now s.armed).2.timers,
          s.now ≤ t.due := by
        intro t ht
        rw [Bridge.timers_handle] at ht
        rcases List.mem_append.1 ht with ht | ht
        · exact hdue t ht
        · obtain ⟨place, -, rfl⟩ := Option.map_eq_some_iff.1 (Option.mem_toList.1 ht)
          exact Nat.le_add_right _ _
      obtain ⟨acts, hrun, heq⟩ := ih hb' hdue'
      refine ⟨.handle s.now s.armed event payload :: acts, .handle (Nat.le_refl _) ?_ hrun, heq⟩
      rw [Sync.timers_of_bridge hb]
      exact hdue
    | advance span =>
      have hcount : b.timers.length ≤ s.sync.timers.length :=
        Nat.le_of_eq (congrArg List.length (Sync.timers_of_bridge hb).symm)
      have helapses : Sync.Elapses s.now (s.now + span) s.sync (s.advance span).sync :=
        Sync.elapses_fireUntil hb hcount (Nat.le_add_right s.now span) hdue
      obtain ⟨fires, b', hfires, hb', hleft, hjoin⟩ := helapses
      obtain ⟨acts, hrun, heq⟩ := @ih (s.advance span) b' hb' hleft
      refine ⟨fires ++ acts, hjoin acts hrun, ?_⟩
      rw [List.foldl_cons, Sync.after_append, ← hfires]
      exact heq

/-- Whatever is asked of a fresh station is a timely run of its bridge. -/
theorem timely_governed (rules : RuleTable) (store : Store) (calls : List Call) :
    ∃ acts, Timely 0 (.governed rules store) acts ∧
      (calls.foldl call (governed rules store)).sync = (Sync.governed rules store).after acts :=
  @timely (governed rules store) _ rfl nofun calls

end Station

end LiveSync.Cache
