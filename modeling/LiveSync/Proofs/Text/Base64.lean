import LiveSync.Text.Base64

/-!
# Base64 comes back

* `value?_digit` — a digit stands for the number that it writes.
* `decode?_encode` — bytes are read as they were written, however many there are.
* `digit_of_mem_encode` — nothing but digits is written, so neither a dot nor an equals sign is.
-/

namespace LiveSync.Text.Base64

theorem value?_digit : ∀ n < 64, value? (digit n) = some n := by decide

theorem digit_ne_dot : ∀ n < 64, digit n ≠ '.' := by decide

theorem digit_ne_equals : ∀ n < 64, digit n ≠ '=' := by decide

/-- **Bytes are read as they were written.** -/
theorem decode?_encode {bytes : List Nat} (h : ∀ b ∈ bytes, b < 256) :
    decode? (encode bytes) = some bytes := by
  fun_induction encode bytes with
  | case1 a b c rest ih =>
    simp only [List.forall_mem_cons] at h
    obtain ⟨ha, hb, hc, hrest⟩ := h
    rw [decode?, value?_digit _ (by omega), value?_digit _ (by omega), value?_digit _ (by omega),
      value?_digit _ (by omega), ih hrest]
    simp
    omega
  | case2 a b =>
    simp only [List.forall_mem_cons] at h
    obtain ⟨ha, hb, -⟩ := h
    rw [decode?, value?_digit _ (by omega), value?_digit _ (by omega), value?_digit _ (by omega)]
    simp
    omega
  | case3 a =>
    simp only [List.forall_mem_cons] at h
    obtain ⟨ha, -⟩ := h
    rw [decode?, value?_digit _ (by omega), value?_digit _ (by omega)]
    simp
    omega
  | case4 => rfl

theorem digit_of_mem_encode {bytes : List Nat} (h : ∀ b ∈ bytes, b < 256) :
    ∀ d ∈ encode bytes, ∃ n < 64, d = digit n := by
  fun_induction encode bytes with
  | case1 a b c rest ih =>
    simp only [List.forall_mem_cons] at h ⊢
    obtain ⟨ha, hb, hc, hrest⟩ := h
    exact ⟨⟨_, by omega, rfl⟩, ⟨_, by omega, rfl⟩, ⟨_, by omega, rfl⟩, ⟨_, by omega, rfl⟩, ih hrest⟩
  | case2 a b =>
    simp only [List.forall_mem_cons] at h ⊢
    exact ⟨⟨_, by omega, rfl⟩, ⟨_, by omega, rfl⟩, ⟨_, by omega, rfl⟩, nofun⟩
  | case3 a =>
    simp only [List.forall_mem_cons] at h ⊢
    exact ⟨⟨_, by omega, rfl⟩, ⟨_, by omega, rfl⟩, nofun⟩
  | case4 => nofun

theorem dot_notMem_encode {bytes : List Nat} (h : ∀ b ∈ bytes, b < 256) : '.' ∉ encode bytes := by
  intro hmem
  obtain ⟨n, hn, hdot⟩ := digit_of_mem_encode h _ hmem
  exact digit_ne_dot n hn hdot.symm

theorem equals_notMem_encode {bytes : List Nat} (h : ∀ b ∈ bytes, b < 256) :
    '=' ∉ encode bytes := by
  intro hmem
  obtain ⟨n, hn, hequals⟩ := digit_of_mem_encode h _ hmem
  exact digit_ne_equals n hn hequals.symm

end LiveSync.Text.Base64
