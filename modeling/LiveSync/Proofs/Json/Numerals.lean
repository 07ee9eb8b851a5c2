import LiveSync.Json.Printer
import LiveSync.Proofs.Decimal.Shortest

/-!
# The text of a number

A number is written in digits with a sign, a point and an exponent where it needs them.  The text of
a decimal has the value of the decimal, in whichever of the four ways it is written; with the sign
and the point, which an integer never has, this tells all numbers apart.

* `writtenValue` — the value of the text of a decimal.
* `writtenValue_decimalChars` — every way of writing a decimal has its value.
* `doubleChars_injective`, `intChars_injective` — doubles and integers are told apart.
* `numberChars_injective` — so are all numbers.
-/

namespace LiveSync.Json

open LiveSync.Decimal

/-! ## Reading a decimal -/

/-- The digits after a point, if there is one, and what follows. -/
def splitFraction : List Char → List Char × List Char
  | '.' :: cs => (cs.takeWhile Char.isDigit, cs.dropWhile Char.isDigit)
  | cs => ([], cs)

/-- The exponent at the end of a text, if there is one. -/
def exponentValue : List Char → ℤ
  | 'e' :: '-' :: ds => -(Nat.ofDigitChars 10 ds 0)
  | 'e' :: '+' :: ds => Nat.ofDigitChars 10 ds 0
  | _ => 0

/-- The value of the text of a decimal. -/
def writtenValue (cs : List Char) : ℚ :=
  let fraction := splitFraction (cs.dropWhile Char.isDigit)
  Nat.ofDigitChars 10 (cs.takeWhile Char.isDigit ++ fraction.1) 0 *
    10 ^ (exponentValue fraction.2 - fraction.1.length)

/-- All characters are digits. -/
def AllDigits (cs : List Char) : Prop :=
  ∀ c ∈ cs, c.isDigit = true

/-- The text does not begin with a digit. -/
def EndsDigits (cs : List Char) : Prop :=
  ∀ c ∈ cs.head?, c.isDigit = false

theorem AllDigits.append {a b : List Char} (ha : AllDigits a) (hb : AllDigits b) :
    AllDigits (a ++ b) :=
  fun c hc => (List.mem_append.1 hc).elim (ha c) (hb c)

theorem AllDigits.take {ds : List Char} (hd : AllDigits ds) (k : Nat) : AllDigits (ds.take k) :=
  fun c hc => hd c (List.mem_of_mem_take hc)

theorem AllDigits.drop {ds : List Char} (hd : AllDigits ds) (k : Nat) : AllDigits (ds.drop k) :=
  fun c hc => hd c (List.mem_of_mem_drop hc)

theorem allDigits_natChars (n : Nat) : AllDigits (natChars n) :=
  fun _ hc => Nat.isDigit_of_mem_toDigits (by decide) (by decide) hc

theorem allDigits_zeros (n : Nat) : AllDigits (List.replicate n '0') := by
  intro c hc
  rw [List.eq_of_mem_replicate hc]
  rfl

theorem takeWhile_digits {ds rest : List Char} (hd : AllDigits ds) (hr : EndsDigits rest) :
    (ds ++ rest).takeWhile Char.isDigit = ds ∧ (ds ++ rest).dropWhile Char.isDigit = rest := by
  rw [List.takeWhile_append_of_pos hd, List.dropWhile_append_of_pos hd]
  cases rest with
  | nil => simp
  | cons c cs =>
    have hc : c.isDigit = false := hr c rfl
    simp [hc]

/-- A decimal with a point. -/
theorem writtenValue_point {whole fraction tail : List Char} (hw : AllDigits whole)
    (hf : AllDigits fraction) (ht : EndsDigits tail) :
    writtenValue (whole ++ '.' :: (fraction ++ tail)) =
      Nat.ofDigitChars 10 (whole ++ fraction) 0 * 10 ^ (exponentValue tail - fraction.length) := by
  have hpoint : EndsDigits ('.' :: (fraction ++ tail)) := by rintro c ⟨⟩; rfl
  unfold writtenValue
  rw [(takeWhile_digits hw hpoint).1, (takeWhile_digits hw hpoint).2]
  simp only [splitFraction, (takeWhile_digits hf ht).1, (takeWhile_digits hf ht).2]

/-- A decimal without a point. -/
theorem writtenValue_exponent {whole tail : List Char} (hw : AllDigits whole) :
    writtenValue (whole ++ 'e' :: tail) =
      Nat.ofDigitChars 10 whole 0 * 10 ^ exponentValue ('e' :: tail) := by
  have hexponent : EndsDigits ('e' :: tail) := by rintro c ⟨⟩; rfl
  unfold writtenValue
  rw [(takeWhile_digits hw hexponent).1, (takeWhile_digits hw hexponent).2]
  simp [splitFraction]

@[simp] theorem ofDigitChars_natChars (n : Nat) : Nat.ofDigitChars 10 (natChars n) 0 = n :=
  Nat.ofDigitChars_ten_toDigits

theorem length_natChars_pos (n : Nat) : 0 < (natChars n).length :=
  Nat.length_toDigits_pos

theorem exponentValue_scientific (e : ℤ) :
    exponentValue ('e' :: (if e ≤ 0 then '-' else '+') :: natChars (e - 1).natAbs) = e - 1 := by
  split
  · simp only [exponentValue, ofDigitChars_natChars]
    omega
  · simp only [exponentValue, ofDigitChars_natChars]
    omega

theorem endsDigits_nil : EndsDigits [] := nofun

section

variable {ds : List Char} {n : Nat} (hd : AllDigits ds) (hn : Nat.ofDigitChars 10 ds 0 = n)
include hd hn

/-- An integer, with zeros behind it. -/
theorem writtenValue_integral (zeros : Nat) :
    writtenValue (ds ++ List.replicate zeros '0' ++ ['.', '0']) = n * 10 ^ (zeros : ℤ) := by
  have hwritten := writtenValue_point (hd.append (allDigits_zeros zeros)) (allDigits_zeros 1)
    endsDigits_nil
  rw [List.append_nil] at hwritten
  rw [show ['.', '0'] = '.' :: List.replicate 1 '0' from rfl, hwritten, Nat.ofDigitChars_append,
    Nat.ofDigitChars_replicate_zero, Nat.ofDigitChars_append, Nat.ofDigitChars_replicate_zero, hn]
  have hone : exponentValue [] - ((List.replicate 1 '0').length : ℤ) = -1 := rfl
  rw [hone, zpow_neg_one, zpow_natCast]
  push_cast
  ring

/-- A point between the digits. -/
theorem writtenValue_split (k : Nat) :
    writtenValue (ds.take k ++ '.' :: ds.drop k) = n * 10 ^ (-((ds.length - k : Nat) : ℤ)) := by
  have hwritten := writtenValue_point (hd.take k) (hd.drop k) endsDigits_nil
  rw [List.append_nil, List.take_append_drop, hn, List.length_drop] at hwritten
  rw [hwritten]
  congr 1
  exact congrArg _ (zero_sub _)

/-- A point before the digits, with zeros in between. -/
theorem writtenValue_small (zeros : Nat) :
    writtenValue ('0' :: '.' :: (List.replicate zeros '0' ++ ds)) =
      n * 10 ^ (-((zeros + ds.length : Nat) : ℤ)) := by
  have hwritten := writtenValue_point (allDigits_zeros 1) ((allDigits_zeros zeros).append hd)
    endsDigits_nil
  rw [List.append_nil, Nat.ofDigitChars_append, Nat.ofDigitChars_append,
    Nat.ofDigitChars_replicate_zero, Nat.ofDigitChars_replicate_zero, Nat.mul_zero, hn,
    List.length_append, List.length_replicate] at hwritten
  exact hwritten.trans (congrArg _ (congrArg _ (zero_sub _)))

/-- One digit before the point, and an exponent. -/
theorem writtenValue_scientific (hpos : 0 < ds.length) (e : ℤ) :
    writtenValue (ds.take 1 ++ (if ds.length = 1 then [] else '.' :: ds.drop 1) ++
        'e' :: (if e ≤ 0 then '-' else '+') :: natChars (e - 1).natAbs) =
      n * 10 ^ (e - ds.length) := by
  split
  · rename_i hone
    rw [List.append_nil, List.take_of_length_le (by omega), writtenValue_exponent hd,
      exponentValue_scientific, hn, hone]
    rfl
  · have hexponent : EndsDigits
        ('e' :: (if e ≤ 0 then '-' else '+') :: natChars (e - 1).natAbs) := by rintro c ⟨⟩; rfl
    have hwritten := writtenValue_point (hd.take 1) (hd.drop 1) hexponent
    rw [List.take_append_drop, hn, exponentValue_scientific, List.length_drop] at hwritten
    rw [List.append_assoc, List.cons_append, hwritten]
    congr 2
    push_cast [Nat.cast_sub hpos]
    ring

end

/-- **A decimal is written with its value**, positionally or with an exponent. -/
theorem writtenValue_decimalChars (d : Numeral) : writtenValue (decimalChars d) = d.value := by
  have hdigits := allDigits_natChars d.digits
  have hvalue := ofDigitChars_natChars d.digits
  have hpos := length_natChars_pos d.digits
  unfold decimalChars Numeral.value
  dsimp only
  split
  · rename_i h
    rw [writtenValue_integral hdigits hvalue, Int.toNat_of_nonneg h.1]
  split
  · rw [writtenValue_split hdigits hvalue]
    congr 2
    omega
  split
  · rw [writtenValue_small hdigits hvalue]
    congr 2
    omega
  · rw [writtenValue_scientific hdigits hvalue hpos]
    congr 2
    omega

/-! ## Telling numbers apart -/

/-- The characters that a number is written in. -/
def isNumberChar (c : Char) : Bool :=
  c.isDigit || c = '-' || c = '+' || c = '.' || c = 'e'

/-- The characters that no integer is written in. -/
def isPointed (c : Char) : Bool :=
  c = '.' || c = 'e'

theorem AllDigits.isNumberChar {ds : List Char} (hd : AllDigits ds) :
    ∀ c ∈ ds, isNumberChar c = true :=
  fun c hc => by simp [Json.isNumberChar, hd c hc]

theorem AllDigits.not_isPointed {ds : List Char} (hd : AllDigits ds) :
    ∀ c ∈ ds, isPointed c = false := by
  intro c hc
  have hdigit := hd c hc
  unfold isPointed
  rw [Bool.or_eq_false_iff, decide_eq_false_iff_not, decide_eq_false_iff_not]
  constructor <;> rintro rfl <;> exact absurd hdigit (by decide)

theorem isNumberChar_decimalChars (d : Numeral) : ∀ c ∈ decimalChars d, isNumberChar c = true := by
  have hdigits := allDigits_natChars d.digits
  have hzeros (n : Nat) := (allDigits_zeros n).isNumberChar
  have htake := (hdigits.take 1).isNumberChar
  have hdrop := (hdigits.drop 1).isNumberChar
  have hexponent (n : Nat) := (allDigits_natChars n).isNumberChar
  unfold decimalChars
  dsimp only
  split
  · simp only [List.forall_mem_append, List.forall_mem_cons]
    exact ⟨⟨hdigits.isNumberChar, hzeros _⟩, rfl, rfl, nofun⟩
  split
  · simp only [List.forall_mem_append, List.forall_mem_cons]
    exact ⟨(hdigits.take _).isNumberChar, rfl, (hdigits.drop _).isNumberChar⟩
  split
  · simp only [List.forall_mem_append, List.forall_mem_cons]
    exact ⟨rfl, rfl, hzeros _, hdigits.isNumberChar⟩
  · simp only [List.forall_mem_append, List.forall_mem_cons]
    refine ⟨⟨htake, ?_⟩, rfl, by split <;> rfl, hexponent _⟩
    split
    · exact nofun
    · exact List.forall_mem_cons.2 ⟨rfl, hdrop⟩

/-- A decimal has a point or an exponent. -/
theorem exists_isPointed_decimalChars (d : Numeral) : ∃ c ∈ decimalChars d, isPointed c = true := by
  unfold decimalChars
  dsimp only
  split
  · exact ⟨'.', by simp, rfl⟩
  split
  · exact ⟨'.', by simp, rfl⟩
  split
  · exact ⟨'.', by simp, rfl⟩
  · exact ⟨'e', by simp, rfl⟩

theorem head_natChars (n : Nat) : ∃ c cs, natChars n = c :: cs ∧ c.isDigit = true := by
  obtain ⟨c, cs, hcs⟩ := List.exists_cons_of_length_pos (length_natChars_pos n)
  exact ⟨c, cs, hcs, allDigits_natChars n c (by rw [hcs]; exact List.mem_cons_self)⟩

/-- A decimal begins with a digit. -/
theorem head_decimalChars (d : Numeral) :
    ∃ c cs, decimalChars d = c :: cs ∧ c.isDigit = true := by
  obtain ⟨c, cs, hcs, hc⟩ := head_natChars d.digits
  unfold decimalChars
  dsimp only
  rw [hcs]
  split
  · exact ⟨c, _, rfl, hc⟩
  split
  · rename_i hpoint
    obtain ⟨k, hk⟩ : ∃ k, (((c :: cs).length : ℤ) + d.exponent).toNat = k + 1 :=
      Nat.exists_eq_succ_of_ne_zero (by omega)
    rw [hk]
    exact ⟨c, _, rfl, hc⟩
  split
  · exact ⟨'0', _, rfl, rfl⟩
  · exact ⟨c, _, rfl, hc⟩

theorem natChars_injective {m n : Nat} (h : natChars m = natChars n) : m = n := by
  rw [← ofDigitChars_natChars m, h, ofDigitChars_natChars]

/-- The sign of a text that has a sign in front or begins with a digit. -/
theorem sign_eq {cs ds : List Char} {p q : Prop} [Decidable p] [Decidable q]
    (hc : ∃ c rest, cs = c :: rest ∧ c.isDigit = true)
    (hd : ∃ d rest, ds = d :: rest ∧ d.isDigit = true)
    (h : (if p then '-' :: cs else cs) = if q then '-' :: ds else ds) : (p ↔ q) ∧ cs = ds := by
  obtain ⟨c, crest, rfl, hc⟩ := hc
  obtain ⟨d, drest, rfl, hd⟩ := hd
  split at h <;> split at h
  · exact ⟨iff_of_true ‹_› ‹_›, (List.cons.inj h).2⟩
  · obtain rfl := (List.cons.inj h).1
    exact absurd hd (by decide)
  · obtain rfl := (List.cons.inj h).1
    exact absurd hc (by decide)
  · exact ⟨iff_of_false ‹_› ‹_›, h⟩

theorem intChars_injective {m n : ℤ} (h : intChars m = intChars n) : m = n := by
  obtain ⟨hsign, habs⟩ := sign_eq (head_natChars m.natAbs) (head_natChars n.natAbs) h
  have := natChars_injective habs
  omega

/-- **Different doubles have different texts.** -/
theorem doubleChars_injective {a b : Double} (h : doubleChars a = doubleChars b) : a = b := by
  obtain ⟨hsign, hchars⟩ :=
    sign_eq (head_decimalChars (shortest a)) (head_decimalChars (shortest b)) h
  have hvalue : (shortest a).value = (shortest b).value := by
    rw [← writtenValue_decimalChars, hchars, writtenValue_decimalChars]
  exact Double.ext_magnitude (magnitude_eq_of_value_eq hvalue) (Bool.eq_iff_iff.2 hsign)

/-- The characters of an integer are not pointed. -/
theorem not_isPointed_intChars (n : ℤ) : ∀ c ∈ intChars n, isPointed c = false := by
  have hdigits := (allDigits_natChars n.natAbs).not_isPointed
  unfold intChars
  split
  · exact List.forall_mem_cons.2 ⟨rfl, hdigits⟩
  · exact hdigits

theorem exists_isPointed_doubleChars (d : Double) : ∃ c ∈ doubleChars d, isPointed c = true := by
  obtain ⟨c, hc, hpointed⟩ := exists_isPointed_decimalChars (shortest d)
  unfold doubleChars
  split
  · exact ⟨c, List.mem_cons_of_mem _ hc, hpointed⟩
  · exact ⟨c, hc, hpointed⟩

theorem intChars_ne_doubleChars (n : ℤ) (d : Double) : intChars n ≠ doubleChars d := by
  intro h
  obtain ⟨c, hc, hpointed⟩ := exists_isPointed_doubleChars d
  rw [← h] at hc
  exact absurd hpointed (by rw [not_isPointed_intChars n c hc]; exact Bool.false_ne_true)

/-- **Different numbers have different texts.** -/
theorem numberChars_injective {a b : Number} (h : numberChars a = numberChars b) : a = b := by
  cases a with
  | integer m _ =>
    cases b with
    | integer n _ =>
      obtain rfl := intChars_injective h
      rfl
    | double d => exact absurd h (intChars_ne_doubleChars m d)
  | double d =>
    cases b with
    | integer n _ => exact absurd h.symm (intChars_ne_doubleChars n d)
    | double e => exact congrArg Number.double (doubleChars_injective h)

theorem isNumberChar_numberChars (n : Number) : ∀ c ∈ numberChars n, isNumberChar c = true := by
  cases n with
  | integer n _ =>
    have hdigits := (allDigits_natChars n.natAbs).isNumberChar
    show ∀ c ∈ intChars n, _
    unfold intChars
    split
    · exact List.forall_mem_cons.2 ⟨rfl, hdigits⟩
    · exact hdigits
  | double d =>
    have hdecimal := isNumberChar_decimalChars (shortest d)
    show ∀ c ∈ doubleChars d, _
    unfold doubleChars
    split
    · exact List.forall_mem_cons.2 ⟨rfl, hdecimal⟩
    · exact hdecimal

end LiveSync.Json
