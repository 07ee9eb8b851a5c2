import LiveSync.Registry

/-!
# Reading the registry back

The registry is a list of entries in ascending order of their entities.  Every operation reads it
by `Registry.get?` and writes it by `Registry.put` and `Registry.drop`; this file says what one
reads after the other.

* `mem_of_get?`, `get?_of_mem` — in an ascending registry, reading an entity and finding its entry
  in the list are the same thing.
* `get?_put`, `get?_drop`, `get?_filter`, `get?_map` — what is read after each way of writing.
* `get?_expire`, `get?_demoteAll`, … — what is read after the operations on all entities.
* `ascending_put`, `ascending_drop`, … — every way of writing keeps the order.
-/

namespace LiveSync
namespace Registry

/-- The entities stand in strictly ascending order, so that each has one entry at most. -/
def Ascending (r : Registry) : Prop :=
  r.entries.Pairwise fun a b => a.1 < b.1

/-! ## Membership -/

theorem mem_of_get? {r : Registry} {id : String} {e : Entry} (h : r.get? id = some e) :
    (id, e) ∈ r.entries := by
  obtain ⟨p, hp, rfl⟩ := Option.map_eq_some_iff.1 h
  have hid : p.1 = id := by simpa using List.find?_some hp
  have hmem := List.mem_of_find?_eq_some hp
  rw [← hid]
  exact hmem

theorem get?_eq_none_iff {r : Registry} {id : String} :
    r.get? id = none ↔ ∀ p ∈ r.entries, p.1 ≠ id := by
  simp [get?, List.find?_eq_none]

/-- Two entries of one entity are the same entry. -/
theorem Ascending.eq_of_mem {l : List (String × Entry)} (h : l.Pairwise fun a b => a.1 < b.1)
    {p q : String × Entry} (hp : p ∈ l) (hq : q ∈ l) (hpq : p.1 = q.1) : p = q := by
  induction l with
  | nil => exact absurd hp List.not_mem_nil
  | cons x rest ih =>
    rw [List.pairwise_cons] at h
    rcases List.mem_cons.1 hp with hpx | hp'
    · rcases List.mem_cons.1 hq with hqx | hq'
      · rw [hpx, hqx]
      · rw [hpx] at hpq
        exact absurd hpq (String.ne_of_lt (h.1 q hq'))
    · rcases List.mem_cons.1 hq with hqx | hq'
      · rw [hqx] at hpq
        exact absurd hpq.symm (String.ne_of_lt (h.1 p hp'))
      · exact ih h.2 hp' hq'

theorem get?_of_mem {r : Registry} (h : r.Ascending) {id : String} {e : Entry}
    (hm : (id, e) ∈ r.entries) : r.get? id = some e := by
  cases hg : r.get? id with
  | none => exact absurd rfl (get?_eq_none_iff.1 hg (id, e) hm)
  | some e' =>
    have heq := Ascending.eq_of_mem h (mem_of_get? hg) hm rfl
    exact congrArg some (Prod.mk.inj heq).2

/-! ## Writing one entry -/

theorem mem_putEntry {id : String} {e : Entry} {l : List (String × Entry)} {p : String × Entry}
    (h : p ∈ putEntry id e l) : p = (id, e) ∨ p ∈ l := by
  induction l with
  | nil => exact Or.inl (by simpa [putEntry] using h)
  | cons q rest ih =>
    obtain ⟨k, x⟩ := q
    unfold putEntry at h
    by_cases h1 : k = id
    · rw [if_pos h1] at h
      rcases List.mem_cons.1 h with h2 | h2
      · exact Or.inl h2
      · exact Or.inr (List.mem_cons_of_mem _ h2)
    · rw [if_neg h1] at h
      by_cases h2 : k < id
      · rw [if_pos h2] at h
        rcases List.mem_cons.1 h with h3 | h3
        · exact Or.inr (h3 ▸ List.mem_cons_self)
        · rcases ih h3 with h4 | h4
          · exact Or.inl h4
          · exact Or.inr (List.mem_cons_of_mem _ h4)
      · rw [if_neg h2] at h
        exact List.mem_cons.1 h

theorem find?_putEntry (id : String) (e : Entry) (l : List (String × Entry)) (key : String) :
    (putEntry id e l).find? (fun p => p.1 = key) =
      if id = key then some (id, e) else l.find? fun p => p.1 = key := by
  induction l with
  | nil => by_cases h : id = key <;> simp [putEntry, h]
  | cons q rest ih =>
    obtain ⟨k, x⟩ := q
    unfold putEntry
    by_cases h1 : k = id
    · subst h1
      rw [if_pos rfl]
      by_cases h : k = key <;> simp [h]
    · rw [if_neg h1]
      by_cases h2 : k < id
      · rw [if_pos h2]
        by_cases hk : k = key
        · have hne : id ≠ key := fun hc => h1 (hk.trans hc.symm)
          simp [hk, hne]
        · simp [hk, ih]
      · rw [if_neg h2]
        by_cases h : id = key <;> simp [h]

theorem pairwise_putEntry {id : String} {e : Entry} {l : List (String × Entry)}
    (h : l.Pairwise fun a b => a.1 < b.1) :
    (putEntry id e l).Pairwise fun a b => a.1 < b.1 := by
  induction l with
  | nil => simp [putEntry]
  | cons q rest ih =>
    obtain ⟨k, x⟩ := q
    rw [List.pairwise_cons] at h
    unfold putEntry
    by_cases h1 : k = id
    · rw [if_pos h1, List.pairwise_cons]
      exact ⟨fun p hp => h1 ▸ h.1 p hp, h.2⟩
    · rw [if_neg h1]
      by_cases h2 : k < id
      · rw [if_pos h2, List.pairwise_cons]
        refine ⟨fun p hp => ?_, ih h.2⟩
        rcases mem_putEntry hp with rfl | hp
        · exact h2
        · exact h.1 p hp
      · have h3 : id < k := by
          rcases Std.lt_trichotomy k id with h4 | h4 | h4
          · exact absurd h4 h2
          · exact absurd h4 h1
          · exact h4
        rw [if_neg h2, List.pairwise_cons]
        refine ⟨fun p hp => ?_, List.pairwise_cons.2 h⟩
        rcases List.mem_cons.1 hp with rfl | hp
        · exact h3
        · exact String.lt_trans h3 (h.1 p hp)

theorem mem_put {r : Registry} {id : String} {e : Entry} {p : String × Entry}
    (h : p ∈ (r.put id e).entries) : p = (id, e) ∨ p ∈ r.entries :=
  mem_putEntry h

/-- Reading after storing: the stored entry for its own entity, and the old one elsewhere. -/
theorem get?_put (r : Registry) (id : String) (e : Entry) (key : String) :
    (r.put id e).get? key = if id = key then some e else r.get? key := by
  unfold get? put
  rw [find?_putEntry]
  by_cases h : id = key <;> simp [h]

theorem get?_put_self (r : Registry) (id : String) (e : Entry) : (r.put id e).get? id = some e := by
  rw [get?_put, if_pos rfl]

theorem get?_put_of_ne {r : Registry} {id key : String} (hne : id ≠ key) (e : Entry) :
    (r.put id e).get? key = r.get? key := by
  rw [get?_put, if_neg hne]

theorem ascending_put {r : Registry} (h : r.Ascending) (id : String) (e : Entry) :
    (r.put id e).Ascending :=
  pairwise_putEntry h

theorem mem_drop {r : Registry} {id : String} {p : String × Entry}
    (h : p ∈ (r.drop id).entries) : p ∈ r.entries :=
  (List.mem_filter.1 h).1

/-! ## Writing all entries -/

theorem ascending_filter {r : Registry} (h : r.Ascending) (keep : String × Entry → Bool) :
    Ascending { r with entries := r.entries.filter keep } :=
  List.Pairwise.filter keep h

theorem ascending_drop {r : Registry} (h : r.Ascending) (id : String) : (r.drop id).Ascending :=
  ascending_filter h _

/-- Changing entries without renaming their entities keeps the order. -/
theorem ascending_map {r : Registry} (h : r.Ascending) {f : String × Entry → String × Entry}
    (hf : ∀ p, (f p).1 = p.1) : Ascending { r with entries := r.entries.map f } := by
  unfold Ascending
  rw [List.pairwise_map]
  exact List.Pairwise.imp (fun {a b} hab => by rwa [hf a, hf b]) h

/-- Reading after some entries were taken out. -/
theorem get?_filter {r : Registry} (h : r.Ascending) (keep : String × Entry → Bool) (id : String) :
    Registry.get? { r with entries := r.entries.filter keep } id =
      (r.get? id).filter fun e => keep (id, e) := by
  cases hg : r.get? id with
  | none =>
    rw [get?_eq_none_iff] at hg
    rw [Option.filter_none, get?_eq_none_iff]
    exact fun p hp => hg p (List.mem_filter.1 hp).1
  | some e =>
    by_cases hk : keep (id, e) = true
    · rw [Option.filter_some, if_pos hk]
      exact get?_of_mem (ascending_filter h keep) (List.mem_filter.2 ⟨mem_of_get? hg, hk⟩)
    · rw [Option.filter_some, if_neg hk, get?_eq_none_iff]
      intro p hp hid
      obtain ⟨hm, hkp⟩ := List.mem_filter.1 hp
      have heq : p = (id, e) := Ascending.eq_of_mem h hm (mem_of_get? hg) hid
      exact hk (heq ▸ hkp)

/-- Reading after all entries were changed in place. -/
theorem get?_map {r : Registry} {id : String} {f : String × Entry → String × Entry}
    (hf : ∀ p, (f p).1 = p.1) :
    Registry.get? { r with entries := r.entries.map f } id =
      (r.get? id).map fun e => (f (id, e)).2 := by
  unfold get?
  have hkeys : ((fun p : String × Entry => decide (p.1 = id)) ∘ f) =
      fun p => decide (p.1 = id) := by
    funext p
    simp [hf]
  rw [List.find?_map, hkeys]
  cases hp : r.entries.find? fun p => decide (p.1 = id) with
  | none => rfl
  | some p =>
    have hid : p.1 = id := by simpa using List.find?_some hp
    simp [← hid]

theorem get?_drop {r : Registry} (h : r.Ascending) (id key : String) :
    (r.drop id).get? key = if id = key then none else r.get? key := by
  unfold drop
  rw [get?_filter h]
  by_cases hk : id = key
  · subst hk
    cases r.get? id <;> simp
  · cases r.get? key <;> simp [hk, Ne.symm hk]

theorem get?_drop_self {r : Registry} (h : r.Ascending) (id : String) :
    (r.drop id).get? id = none := by
  rw [get?_drop h, if_pos rfl]

theorem get?_drop_of_ne {r : Registry} (h : r.Ascending) {id key : String} (hne : id ≠ key) :
    (r.drop id).get? key = r.get? key := by
  rw [get?_drop h, if_neg hne]

/-! ## Operations on all entities -/

/-- Giving up takes out what is overdue. -/
theorem get?_expire {r : Registry} (h : r.Ascending) (now : Nat) (id : String) :
    (r.expire now).2.2.get? id = (r.get? id).filter fun e => !e.isOverdue now :=
  get?_filter h (fun p => !p.2.isOverdue now) id

/-- Without the connection, what was being released is gone and all else starts over. -/
theorem get?_demoteAll {r : Registry} (h : r.Ascending) (id : String) :
    r.demoteAll.2.get? id =
      ((r.get? id).filter fun e => e.status ≠ .releasing).map Entry.demoted := by
  let kept : Registry := { r with entries := r.entries.filter fun p => p.2.status ≠ .releasing }
  have hkept : kept.get? id = (r.get? id).filter fun e => e.status ≠ .releasing :=
    get?_filter h (fun p => p.2.status ≠ .releasing) id
  rw [← hkept]
  exact get?_map (r := kept) (f := fun p => (p.1, p.2.demoted)) fun _ => rfl

/-- A new connection sends what waits for one. -/
theorem get?_reissue (r : Registry) (now : Nat) (id : String) :
    (r.reissue now).2.get? id = (r.get? id).map fun e =>
      if e.isUnsent then { e with sent := true, deadline := deadlineAfter now r.subscribeTimeout }
      else e := by
  have hkeys (p : String × Entry) : (if p.2.isUnsent then (p.1, { p.2 with
      sent := true, deadline := deadlineAfter now r.subscribeTimeout }) else p).1 = p.1 := by
    split <;> rfl
  refine (get?_map hkeys).trans (Option.map_congr fun e _ => ?_)
  split <;> rfl

/-- Failing those that wait to be subscribed leaves the entries. -/
theorem get?_failSubscribers (r : Registry) (fault : Fault) (id : String) :
    (r.failSubscribers fault).2.get? id =
      (r.get? id).map fun e => { e with subscribers := [] } :=
  get?_map fun _ => rfl

/-- Who is active: those whose entry says so. -/
theorem mem_activeEntities {r : Registry} (h : r.Ascending) {id : String} :
    id ∈ r.activeEntities ↔ ∃ e, r.get? id = some e ∧ e.status = .active := by
  simp only [activeEntities, List.mem_map, List.mem_filter, decide_eq_true_eq]
  constructor
  · rintro ⟨⟨k, e⟩, ⟨hm, ha⟩, rfl⟩
    exact ⟨e, get?_of_mem h hm, ha⟩
  · rintro ⟨e, hg, ha⟩
    exact ⟨(id, e), ⟨mem_of_get? hg, ha⟩, rfl⟩

end Registry
end LiveSync
