import LiveSync.Proofs.Registry.Entries

/-!
# Deadlines of the registry

The registry lies ahead of a time if no acknowledgement that it awaits is overdue then.  Giving up
what is overdue brings it there, and no change that is made at that time takes it back: a deadline
is only ever set for later.

* `ahead_iff` — the earliest deadline lies ahead if every one does.
* `ahead_expire` — giving up what is overdue.
* `ahead_of_leaves`, `ahead_apply` — every change.
-/

namespace LiveSync

/-- The acknowledgement of an entry is not overdue at a time, nor before it. -/
def Entry.Ahead (now : Nat) (e : Entry) : Prop :=
  ∀ due, e.deadline = some due → now < due

theorem Entry.Ahead.of_untimed {now : Nat} {e : Entry} (h : e.deadline = none) : e.Ahead now :=
  fun _ hdue => absurd (h.symm.trans hdue) nofun

theorem Entry.ahead_iff_not_isOverdue {now : Nat} {e : Entry} :
    e.Ahead now ↔ e.isOverdue now = false := by
  cases hd : e.deadline with
  | none => simp [Ahead, isOverdue, hd]
  | some due => simp [Ahead, isOverdue, hd]

namespace Registry

/-- No acknowledgement is overdue at a time, nor before it. -/
def Ahead (r : Registry) (now : Nat) : Prop :=
  ∀ due, r.nextDeadline = some due → now < due

theorem ahead_iff {r : Registry} {now : Nat} : r.Ahead now ↔ r.All (Entry.Ahead now) := by
  unfold Ahead nextDeadline All
  induction r.entries with
  | nil => simp
  | cons first rest ih =>
    rw [List.foldr_cons, Instant.lt_earliest_iff, ih, List.forall_mem_cons]
    rfl

theorem lt_of_deadlineAfter {now timeout due : Nat}
    (h : deadlineAfter now timeout = some due) : now < due := by
  simp only [deadlineAfter, Option.ite_none_left_eq_some, Option.some.injEq] at h
  obtain ⟨htimeout, rfl⟩ := h
  exact Nat.lt_add_of_pos_right (Nat.pos_of_ne_zero htimeout)

/-- **What is overdue is gone** once it was given up. -/
theorem ahead_expire (r : Registry) (now : Nat) : (r.expire now).2.2.Ahead now := by
  rw [ahead_iff]
  intro p hp
  obtain ⟨-, hkept⟩ := List.mem_filter.1 hp
  exact Entry.ahead_iff_not_isOverdue.2 (by simpa using hkept)

/-- A registry whose entries all wait for a connection awaits no acknowledgement. -/
theorem ahead_of_queued {r : Registry} (h : r.All Entry.Queued) (now : Nat) : r.Ahead now := by
  rw [ahead_iff]
  exact fun p hp => .of_untimed (h p hp).untimed

/-! ## Changes -/

/-- The change is made at a time, unless no time matters to it. -/
def Change.At (now : Nat) : Change → Prop
  | .subscribe _ _ time _ | .unsubscribe _ _ time _ | .expire time | .reissue time => time = now
  | .acknowledge .. | .reject .. | .release .. | .setWatchers .. | .demoteAll | .failSubscribers _
  | .clear _ => True

theorem ahead_of_leaves {r : Registry} {now : Nat} (h : r.All (Entry.Ahead now)) {x : Change}
    (hx : x.At now) {id : String} {e : Entry} (hl : r.Leaves x id e) : e.Ahead now := by
  cases hl with
  | opened ticket time connected =>
    obtain rfl : time = now := hx
    cases connected with
    | false => exact .of_untimed rfl
    | true => exact fun _ => lt_of_deadlineAfter
  | parted ticket time =>
    obtain rfl : time = now := hx
    exact fun _ => lt_of_deadlineAfter
  | reissued time =>
    obtain rfl : time = now := hx
    exact fun _ => lt_of_deadlineAfter
  | acknowledged => exact .of_untimed rfl
  | demoted => exact .of_untimed rfl
  | kept hm | joined _ _ _ hm | rejoined _ _ _ hm | watched _ hm | failed _ hm => exact h _ hm

/-- **No change makes anything overdue** at the time at which it is made. -/
theorem ahead_apply {r : Registry} {now : Nat} (h : r.Ahead now) {x : Change} (hx : x.At now) :
    (r.apply x).2.Ahead now := by
  rw [ahead_iff] at h ⊢
  exact all_apply fun _ _ => ahead_of_leaves h hx

end Registry
end LiveSync
