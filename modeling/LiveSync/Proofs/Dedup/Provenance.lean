import LiveSync.Proofs.Dedup.Fingerprint

/-!
# Where the things a filter remembers come from

Whatever the clock does, a filter remembers nothing but what it was offered and let pass.  So it
holds an event back only if it let that event pass before, or one that collides with it, within the
window.

* `Memo.limits` — how long and how much a memo remembers, which nothing changes.
* `Memo.mem_seen_shrink`, `mem_seen_dropStale`, `mem_seen_note` — what each step may leave behind.
* `Memo.exists_of_offer` — what is held back was noted within the window.
* `DedupFilter.rules` — the list and the window, which nothing changes.
* `DedupFilter.Stems` — everything that is remembered is among the things that passed.
* `DedupFilter.stems_offer`, `exists_of_offer` — an offer keeps it so, and finds what it holds back
  among them.
-/

namespace LiveSync

open LiveSync.Json

namespace Memo

variable {α : Type} [DecidableEq α]

/-! ## The limits stay -/

/-- What a memo goes by: how long it remembers a thing, and how many things. -/
def limits (m : Memo α) : Nat × Nat :=
  (m.window, m.capacity)

@[simp] theorem limits_forget (m : Memo α) (e : α × Nat) : (m.forget e).limits = m.limits := by
  unfold forget; split <;> rfl

@[simp] theorem limits_foldl_forget (old : List (α × Nat)) (m : Memo α) :
    (old.foldl forget m).limits = m.limits := by
  induction old generalizing m with
  | nil => rfl
  | cons e old ih => rw [List.foldl_cons, ih, limits_forget]

@[simp] theorem limits_dropStale (m : Memo α) (now : Nat) :
    (m.dropStale now).limits = m.limits :=
  limits_foldl_forget ..

@[simp] theorem window_dropStale (m : Memo α) (now : Nat) :
    (m.dropStale now).window = m.window :=
  congrArg Prod.fst (limits_dropStale m now)

@[simp] theorem limits_shrink (queue : List (α × Nat)) (m : Memo α) :
    (m.shrink queue).limits = m.limits := by
  induction queue generalizing m with
  | nil => rfl
  | cons e rest ih =>
    unfold shrink
    split
    · rfl
    · rw [ih, limits_forget]

@[simp] theorem limits_note (m : Memo α) (a : α) (now : Nat) :
    (m.note a now).limits = m.limits :=
  limits_shrink ..

@[simp] theorem limits_offer (m : Memo α) (a : α) (now : Nat) :
    (m.offer a now).2.limits = m.limits := by
  unfold offer
  dsimp only
  split
  · split
    · exact limits_dropStale ..
    · rw [limits_note, limits_dropStale]
  · rw [limits_note, limits_dropStale]

/-! ## What is remembered afterwards -/

section

variable {m : Memo α} {a : α} {now : Nat} {s : α × Nat}

theorem mem_seen_forget {e : α × Nat} (h : s ∈ (m.forget e).seen) : s ∈ m.seen := by
  unfold forget at h
  split at h
  · exact (List.mem_filter.1 h).1
  · exact h

theorem mem_seen_foldl_forget {old : List (α × Nat)} (h : s ∈ (old.foldl forget m).seen) :
    s ∈ m.seen := by
  induction old generalizing m with
  | nil => exact h
  | cons e old ih => exact mem_seen_forget (ih h)

theorem mem_seen_dropStale (h : s ∈ (m.dropStale now).seen) : s ∈ m.seen := by
  let queued : Memo α := { m with queue := m.queue.dropWhile fun e => !m.isFresh e.2 now }
  exact mem_seen_foldl_forget (m := queued) h

theorem mem_seen_shrink {queue : List (α × Nat)} (h : s ∈ (m.shrink queue).seen) : s ∈ m.seen := by
  induction queue generalizing m with
  | nil => exact h
  | cons e rest ih =>
    unfold shrink at h
    split at h
    · exact h
    · exact mem_seen_forget (ih h)

theorem mem_seen_note (h : s ∈ (m.note a now).seen) : s ∈ m.seen ∨ s = (a, now) := by
  rcases List.mem_append.1 (mem_seen_shrink h) with h | h
  · exact Or.inl (List.mem_filter.1 h).1
  · exact Or.inr (List.mem_singleton.1 h)

theorem mem_of_lookup {noted : Nat} (h : m.lookup a = some noted) : (a, noted) ∈ m.seen := by
  obtain ⟨e, he, hnoted⟩ := Option.map_eq_some_iff.1 h
  have hea : e.1 = a := by simpa using List.find?_some he
  exact hea ▸ hnoted ▸ List.mem_of_find?_eq_some he

/-- **What is held back was noted before**, and the window is not over. -/
theorem exists_of_offer (h : (m.offer a now).1 = true) :
    ∃ noted, (a, noted) ∈ m.seen ∧ now - noted < m.window := by
  unfold offer at h
  dsimp only at h
  split at h
  · rename_i noted hlookup
    split at h
    · rename_i hfresh
      refine ⟨noted, mem_seen_dropStale (mem_of_lookup hlookup), ?_⟩
      simpa [isFresh] using hfresh
    · exact absurd h Bool.false_ne_true
  · exact absurd h Bool.false_ne_true

/-- An offer adds nothing to what is remembered but what it lets pass. -/
theorem mem_seen_offer (h : s ∈ (m.offer a now).2.seen) :
    s ∈ m.seen ∨ (m.offer a now).1 = false ∧ s = (a, now) := by
  have hnoted (h : s ∈ ((m.dropStale now).note a now).seen) : s ∈ m.seen ∨ s = (a, now) :=
    (mem_seen_note h).imp mem_seen_dropStale id
  unfold offer at h ⊢
  dsimp only at h ⊢
  split at h
  · split at h
    · exact Or.inl (mem_seen_dropStale h)
    · rename_i hstale
      rw [if_neg hstale]
      exact (hnoted h).imp id fun h => ⟨rfl, h⟩
  · exact (hnoted h).imp id fun h => ⟨rfl, h⟩

end

end Memo

namespace DedupFilter

/-- What a filter goes by: which events it may hold back, and for how long. -/
def rules (f : DedupFilter) : List String × Nat :=
  (f.events, f.memo.window)

@[simp] theorem rules_offer (f : DedupFilter) (event : String) (payload : Value) (now : Nat) :
    (f.offer event payload now).2.rules = f.rules := by
  unfold offer
  split
  · exact congrArg (fun limits : Nat × Nat => (f.events, limits.1)) (f.memo.limits_offer _ now)
  · rfl

@[simp] theorem rules_clear (f : DedupFilter) : f.clear.rules = f.rules := rfl

section

variable {f : DedupFilter} {event : String} {payload : Value} {now : Nat}

/-- What an offer leaves was remembered before, or it is the event that just passed. -/
theorem mem_seen_offer {s : Fingerprint × Nat} (h : s ∈ (f.offer event payload now).2.memo.seen) :
    s ∈ f.memo.seen ∨ event ∈ f.events ∧
      (f.offer event payload now).1 = false ∧ s = (fingerprint event payload, now) := by
  unfold offer at h ⊢
  split at h
  · rename_i hlisted
    rw [if_pos hlisted]
    exact (Memo.mem_seen_offer h).imp id fun hnew => ⟨by simpa using hlisted, hnew⟩
  · exact Or.inl h

/-- What is held back is listed, and was noted within the window. -/
theorem seen_of_offer (h : (f.offer event payload now).1 = true) :
    event ∈ f.events ∧
      ∃ noted, (fingerprint event payload, noted) ∈ f.memo.seen ∧ now - noted < f.memo.window := by
  unfold offer at h
  split at h
  · rename_i hlisted
    exact ⟨by simpa using hlisted, Memo.exists_of_offer h⟩
  · exact absurd h Bool.false_ne_true

end

/-- Everything that is remembered is the fingerprint of a listed event among those that passed, at
the time it was noted. -/
def Stems (f : DedupFilter) (passed : List (Nat × String × Value)) : Prop :=
  ∀ s ∈ f.memo.seen, ∃ p ∈ passed, p.2.1 ∈ f.events ∧ (fingerprint p.2.1 p.2.2, p.1) = s

theorem stems_clear (f : DedupFilter) : f.clear.Stems [] := nofun

theorem Stems.mono {f : DedupFilter} {passed more : List (Nat × String × Value)}
    (h : f.Stems passed) (hsub : passed ⊆ more) : f.Stems more := by
  intro s hs
  obtain ⟨p, hp, heq⟩ := h s hs
  exact ⟨p, hsub hp, heq⟩

/-- An offer that is held back leaves nothing new, and one that passes only itself. -/
theorem stems_offer {f : DedupFilter} {passed : List (Nat × String × Value)} (h : f.Stems passed)
    (event : String) (payload : Value) (now : Nat) :
    (f.offer event payload now).2.Stems
      (passed ++ if (f.offer event payload now).1 then [] else [(now, event, payload)]) := by
  have hevents : (f.offer event payload now).2.events = f.events :=
    congrArg Prod.fst (rules_offer f event payload now)
  intro s hs
  rw [hevents]
  rcases mem_seen_offer hs with hold | ⟨hlisted, hpassed, rfl⟩
  · obtain ⟨p, hp, horigin⟩ := h s hold
    exact ⟨p, List.mem_append_left _ hp, horigin⟩
  · refine ⟨(now, event, payload), List.mem_append_right _ ?_, hlisted, rfl⟩
    rw [hpassed]
    exact List.mem_singleton_self _

/-- **What is held back has an original**: it is on the list, and a listed event that it passes for
passed within the window. -/
theorem exists_of_offer {f : DedupFilter} {passed : List (Nat × String × Value)}
    (h : f.Stems passed) {event : String} {payload : Value} {now : Nat}
    (hheld : (f.offer event payload now).1 = true) :
    event ∈ f.events ∧ ∃ noted name original, (noted, name, original) ∈ passed ∧ name ∈ f.events ∧
      Twins name original event payload ∧ now - noted < f.memo.window := by
  obtain ⟨hlisted, noted, hmem, hfresh⟩ := seen_of_offer hheld
  obtain ⟨⟨time, name, original⟩, hp, hname, heq⟩ := h _ hmem
  obtain ⟨hprint, rfl⟩ := Prod.mk.inj heq
  exact ⟨hlisted, time, name, original, hp, hname, twins_iff.2 hprint, hfresh⟩

end DedupFilter
end LiveSync
