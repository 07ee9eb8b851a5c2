import LiveSync.Text.Utf8

/-!
# UTF-8 comes back

The bytes of a character are read as the character, whatever follows them, and so are those of a
text.

* `encode_singleton` — the one to four bytes of a character.
* `decodeFrom_lead`, `decodeFrom_continue`, `decodeFrom_complete` — reading a byte that begins a
  sequence, goes on with it or ends it.
* `decodeFrom_encode_cons` — one character.
* `decode?_encode` — a text.
-/

namespace LiveSync.Text.Utf8

/-! ## One byte and the next -/

/-- The bytes of a character. -/
theorem encode_singleton (c : Char) : encode [c] =
    if c.toNat ≤ 0x7F then [c.toNat]
    else if c.toNat ≤ 0x7FF then [c.toNat / 64 + 192, c.toNat % 64 + 128]
    else if c.toNat ≤ 0xFFFF then
      [c.toNat / 4096 + 224, c.toNat / 64 % 64 + 128, c.toNat % 64 + 128]
    else [c.toNat / 262144 + 240, c.toNat / 4096 % 64 + 128, c.toNat / 64 % 64 + 128,
      c.toNat % 64 + 128] := by
  have hvalid := c.valid
  simp only [UInt32.isValidChar, Nat.isValidChar] at hvalid
  simp only [encode, List.flatMap_cons, List.flatMap_nil, List.append_nil, String.utf8EncodeChar,
    Char.toNat]
  generalize c.val.toNat = v at hvalid
  split
  · simp only [List.map_cons, List.map_nil, UInt8.toNat_ofNat', List.cons.injEq, and_true]
    omega
  split
  · simp only [List.map_cons, List.map_nil, UInt8.toNat_ofNat', List.cons.injEq, and_true]
    omega
  split
  · simp only [List.map_cons, List.map_nil, UInt8.toNat_ofNat', List.cons.injEq, and_true]
    omega
  · simp only [List.map_cons, List.map_nil, UInt8.toNat_ofNat', List.cons.injEq, and_true]
    omega

theorem encode_cons (c : Char) (cs : List Char) : encode (c :: cs) = encode [c] ++ encode cs := by
  simp [encode]

section

variable {missing low high bits b : Nat}

/-- A byte goes on with a sequence. -/
theorem decodeFrom_continue (hmissing : missing ≠ 0)
    (hrange : low ≤ b ∧ b ≤ high) (bs : List Nat) :
    decodeFrom (some ⟨missing + 1, low, high, bits⟩) (b :: bs) =
      decodeFrom (some ⟨missing, 0x80, 0xBF, bits * 64 + b % 64⟩) bs := by
  simp [decodeFrom, step, hrange, hmissing]

/-- A byte ends a sequence. -/
theorem decodeFrom_complete (hrange : low ≤ b ∧ b ≤ high) (bs : List Nat) :
    decodeFrom (some ⟨1, low, high, bits⟩) (b :: bs) =
      some (Char.ofNat (bits * 64 + b % 64)) :: decodeFrom none bs := by
  simp [decodeFrom, step, hrange]

/-- A byte begins a sequence. -/
theorem decodeFrom_lead (hb : 0x80 ≤ b)
    (hlead : lead? b = some (missing, low, high)) (bs : List Nat) :
    decodeFrom none (b :: bs) = decodeFrom (some ⟨missing, low, high, leadBits missing b⟩) bs := by
  simp [decodeFrom, step, first, Nat.not_lt.2 hb, hlead]

end

/-! ## The lead of two, three and four bytes

The range of the byte after the lead leaves out what is written with fewer bytes, and the
surrogates. -/

theorem lead?_two {n : Nat} (h : 2 ≤ n ∧ n < 32) : lead? (n + 192) = some (1, 0x80, 0xBF) := by
  unfold lead?
  rw [if_pos (by omega)]

theorem lead?_three {v : Nat} (hlow : 0x800 ≤ v) (hhigh : v < 0x10000)
    (hsurrogate : v < 0xD800 ∨ 0xDFFF < v) :
    ∃ low high, lead? (v / 4096 + 224) = some (2, low, high) ∧
      low ≤ v / 64 % 64 + 128 ∧ v / 64 % 64 + 128 ≤ high := by
  unfold lead?
  rw [if_neg (by omega)]
  split
  · exact ⟨_, _, rfl, by omega⟩
  split
  · exact ⟨_, _, rfl, by omega⟩
  · rw [if_pos (by omega)]
    exact ⟨_, _, rfl, by omega⟩

theorem lead?_four {v : Nat} (hlow : 0x10000 ≤ v) (hhigh : v < 0x110000) :
    ∃ low high, lead? (v / 262144 + 240) = some (3, low, high) ∧
      low ≤ v / 4096 % 64 + 128 ∧ v / 4096 % 64 + 128 ≤ high := by
  unfold lead?
  rw [if_neg (by omega), if_neg (by omega), if_neg (by omega), if_neg (by omega)]
  split
  · exact ⟨_, _, rfl, by omega⟩
  split
  · exact ⟨_, _, rfl, by omega⟩
  · rw [if_pos (by omega)]
    exact ⟨_, _, rfl, by omega⟩

/-! ## Characters and texts -/

/-- **A character is read from its bytes**, whatever follows them. -/
theorem decodeFrom_encode_cons (c : Char) (bs : List Nat) :
    decodeFrom none (encode [c] ++ bs) = some c :: decodeFrom none bs := by
  have hvalid := c.valid
  simp only [UInt32.isValidChar, Nat.isValidChar] at hvalid
  have hc := Char.ofNat_toNat c
  have hv : c.toNat = c.val.toNat := rfl
  rw [encode_singleton]
  split
  · rename_i hone
    simp [decodeFrom, step, first, Nat.lt_succ_of_le hone, hc]
  split
  · have hbits : leadBits 1 (c.toNat / 64 + 192) * 64 + (c.toNat % 64 + 128) % 64 = c.toNat := by
      simp only [leadBits, if_pos]
      omega
    simp only [List.cons_append, List.nil_append]
    rw [decodeFrom_lead (by omega) (lead?_two (by omega)), decodeFrom_complete (by omega), hbits,
      hc]
  split
  · obtain ⟨low, high, hlead, hrange⟩ :=
      lead?_three (v := c.toNat) (by omega) (by omega) (by omega)
    have hbits : (leadBits 2 (c.toNat / 4096 + 224) * 64 + (c.toNat / 64 % 64 + 128) % 64) * 64 +
        (c.toNat % 64 + 128) % 64 = c.toNat := by
      simp [leadBits]
      omega
    simp only [List.cons_append, List.nil_append]
    rw [decodeFrom_lead (by omega) hlead, decodeFrom_continue (by omega) hrange,
      decodeFrom_complete (by omega), hbits, hc]
  · obtain ⟨low, high, hlead, hrange⟩ := lead?_four (v := c.toNat) (by omega) (by omega)
    have hbits : ((leadBits 3 (c.toNat / 262144 + 240) * 64 + (c.toNat / 4096 % 64 + 128) % 64) *
        64 + (c.toNat / 64 % 64 + 128) % 64) * 64 + (c.toNat % 64 + 128) % 64 = c.toNat := by
      simp [leadBits]
      omega
    simp only [List.cons_append, List.nil_append]
    rw [decodeFrom_lead (by omega) hlead, decodeFrom_continue (by omega) hrange,
      decodeFrom_continue (by omega) (by omega), decodeFrom_complete (by omega), hbits, hc]

theorem decodeFrom_encode (cs : List Char) : decodeFrom none (encode cs) = cs.map some := by
  induction cs with
  | nil => rfl
  | cons c cs ih =>
    rw [encode_cons, decodeFrom_encode_cons, ih, List.map_cons]

/-- **A text is read from its bytes.** -/
theorem decode?_encode (s : String) : decode? (encode s.toList) = some s := by
  unfold decode?
  rw [decodeFrom_encode]
  have hall : (s.toList.map some).mapM id = some s.toList := by
    induction s.toList with
    | nil => rfl
    | cons c cs ih => simp [ih]
  rw [hall, Option.map_some, String.ofList_toList]

theorem encode_lt (cs : List Char) : ∀ b ∈ encode cs, b < 256 := by
  intro b hb
  obtain ⟨c, -, hc⟩ := List.mem_flatMap.1 hb
  obtain ⟨x, -, rfl⟩ := List.mem_map.1 hc
  exact x.toNat_lt

theorem toNat_lt (c : Char) : c.toNat < 0x110000 := by
  have hvalid := c.valid
  simp only [UInt32.isValidChar, Nat.isValidChar] at hvalid
  unfold Char.toNat
  omega

/-- The greatest bytes stand in no text. -/
theorem encode_lt_mark (cs : List Char) : ∀ b ∈ encode cs, b < 0xf8 := by
  induction cs with
  | nil => exact fun b hb => absurd hb List.not_mem_nil
  | cons c cs ih =>
    have hc : ∀ b ∈ encode [c], b < 0xf8 := by
      have hlt := toNat_lt c
      rw [encode_singleton]
      repeat' split
      all_goals simp only [List.mem_cons, List.not_mem_nil, or_false]; omega
    intro b hb
    rw [encode_cons, List.mem_append] at hb
    exact hb.elim (hc b) (ih b)

end LiveSync.Text.Utf8
