import LiveSync.Proofs.Registry.Entries

/-!
# Who becomes active

Only an acknowledgement makes an entity active.  Every other operation leaves the active entities
active or takes some of them out.

* `isActive_of_apply` — an acknowledgement is the only way in.
* `isActive_of_unsubscribe` — a call for the release takes its entity out.
-/

namespace LiveSync
namespace Registry

/-- The entity has an active entry. -/
def IsActive (r : Registry) (id : String) : Prop :=
  ∃ e, r.get? id = some e ∧ e.status = .active

theorem isActive_iff_mem {r : Registry} (h : r.Ascending) {id : String} :
    r.IsActive id ↔ id ∈ r.activeEntities :=
  (mem_activeEntities h).symm

section

variable {r : Registry} {id other : String}

theorem isActive_put (e : Entry) :
    (r.put id e).IsActive other ↔ if id = other then e.status = .active else r.IsActive other := by
  unfold IsActive
  rw [get?_put]
  by_cases h : id = other
  · simp [h]
  · simp [h]

theorem isActive_drop (h : r.Ascending) :
    (r.drop id).IsActive other ↔ id ≠ other ∧ r.IsActive other := by
  unfold IsActive
  rw [get?_drop h]
  by_cases hid : id = other
  · simp [hid]
  · simp [hid]

theorem isActive_of_leaves (h : r.Ascending) {x : Change} {e : Entry} (hl : r.Leaves x id e)
    (ha : e.status = .active) : r.IsActive id ∨ ∃ watchers, x = .acknowledge id watchers := by
  cases hl with
  | kept hm | watched _ hm | failed _ hm => exact Or.inl ⟨_, get?_of_mem h hm, ha⟩
  | acknowledged watchers => exact Or.inr ⟨watchers, rfl⟩
  | opened | parted | demoted => exact absurd ha nofun
  | joined _ _ _ _ hs | rejoined _ _ _ _ hs => exact absurd (hs.symm.trans ha) nofun
  | reissued _ _ hu =>
    simp only [Entry.isUnsent, Bool.and_eq_true, decide_eq_true_eq] at hu
    exact absurd (hu.1.symm.trans ha) nofun

/-- **Who is active after a change** was so before, unless the change acknowledges it. -/
theorem isActive_of_apply (h : r.Ascending) {x : Change} (ha : (r.apply x).2.IsActive id) :
    r.IsActive id ∨ ∃ watchers, x = .acknowledge id watchers := by
  obtain ⟨e, hg, hs⟩ := ha
  exact isActive_of_leaves h (leaves_of_mem (mem_of_get? hg)) hs

/-- After a caller wanted the subscription released, the entity is not active. -/
theorem isActive_of_unsubscribe (h : r.Ascending) {ticket : Ticket} {now : Nat} {connected : Bool}
    (ha : (r.unsubscribe id ticket now connected).2.2.IsActive other) :
    id ≠ other ∧ r.IsActive other := by
  unfold unsubscribe at ha
  split at ha
  · rename_i hg
    refine ⟨fun hid => ?_, ha⟩
    subst hid
    obtain ⟨e, he, -⟩ := ha
    exact absurd (hg.symm.trans he) nofun
  · split at ha
    · rename_i hs
      rw [isActive_put] at ha
      split at ha
      · exact absurd (hs.symm.trans ha) nofun
      · rename_i hid
        exact ⟨hid, ha⟩
    · split at ha
      · rw [isActive_put] at ha
        split at ha
        · exact absurd ha nofun
        · rename_i hid
          exact ⟨hid, ha⟩
      · exact (isActive_drop h).1 ha

/-- On a new connection nobody is active yet. -/
theorem not_isActive_reissue (h : r.All Entry.Queued) (now : Nat) :
    ¬(r.reissue now).2.IsActive id := by
  rintro ⟨e, hg, hs⟩
  rw [get?_reissue] at hg
  obtain ⟨e', hg', heq⟩ := Option.map_eq_some_iff.1 hg
  have hpending : e.status = .pending := by
    rw [← heq]
    split <;> exact (h.of_get? hg').pending
  exact absurd (hpending.symm.trans hs) nofun

end

end Registry
end LiveSync
