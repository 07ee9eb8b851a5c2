import Mathlib.Algebra.Order.Field.Power
import Mathlib.Data.Rat.Cast.Order
import Mathlib.Tactic.Ring
import LiveSync.Decimal.Shortest

/-!
# The shortest decimal rounds to its double

The search for the shortest decimal of a double never comes back with empty hands, and what it finds
lies among the reals that round to the double.  These reals are disjoint for different doubles, so
two doubles with decimals of one value are equal up to their signs.

* `Numeral.value` — the number that a numeral writes.
* `boundary` — where the reals that round to one magnitude end and those of the next begin.
* `Neighbourhood.Sound.holds_iff` — what the test of a candidate says about its value.
* `search_finds`, `shortest_holds` — the search succeeds.
* `shortest_between` — what is found lies between two boundaries.
* `magnitude_eq_of_value_eq` — the shortest decimal tells the doubles apart.
-/

namespace LiveSync.Decimal

/-- The number that a numeral writes. -/
def Numeral.value (d : Numeral) : ℚ :=
  d.digits * 10 ^ d.exponent

theorem Numeral.value_pos {d : Numeral} (h : d.digits ≠ 0) : 0 < d.value := by
  have hdigits : (0 : ℚ) < d.digits := by exact_mod_cast Nat.pos_of_ne_zero h
  exact mul_pos hdigits (zpow_pos (by norm_num) _)

/-- A power is a quotient of two powers of which one is trivial. -/
theorem zpow_eq_div (b : ℚ) (z : ℤ) : b ^ z = b ^ z.toNat / b ^ (-z).toNat := by
  obtain ⟨n, rfl | rfl⟩ := z.eq_nat_or_neg <;> simp

/-! ## Magnitudes -/

/-- The significand of a magnitude. -/
def significand (magnitude : Nat) : Nat :=
  if magnitude / hiddenBit = 0 then magnitude % hiddenBit
  else hiddenBit + magnitude % hiddenBit

/-- How many powers of two the unit of a magnitude is above the smallest one. -/
def scale (magnitude : Nat) : Nat :=
  magnitude / hiddenBit - 1

/-- The upper end of the reals that round to a magnitude, in quarters of the smallest double. -/
def boundary (magnitude : Nat) : Nat :=
  (4 * significand magnitude + 2) * 2 ^ scale magnitude

/-- A quarter of the smallest double, in which the boundaries are counted. -/
def grain : ℚ :=
  2 ^ (-1076 : ℤ)

theorem magnitude_div (d : Double) : d.magnitude / hiddenBit = exponentBits d.bits := by
  unfold Double.magnitude exponentBits hiddenBit
  omega

theorem magnitude_mod (d : Double) : d.magnitude % hiddenBit = d.bits.toNat % hiddenBit := by
  unfold Double.magnitude hiddenBit
  omega

theorem mantissaExponent_eq (d : Double) :
    mantissaExponent d = (significand d.magnitude, (scale d.magnitude : ℤ) - 1074) := by
  unfold mantissaExponent significand scale
  rw [magnitude_div, magnitude_mod]
  dsimp only
  split
  · rename_i h
    rw [h]
    rfl
  · rename_i h
    congr 1
    omega

theorem significand_lt (magnitude : Nat) : significand magnitude < 2 ^ 53 := by
  unfold significand hiddenBit
  split <;> omega

theorem significand_ne_zero {magnitude : Nat} (h : magnitude ≠ 0) :
    significand magnitude ≠ 0 := by
  unfold significand hiddenBit
  split <;> omega

/-- From one magnitude to the next, either the significand grows by one and the unit stays, or the
unit doubles. -/
theorem significand_succ (magnitude : Nat) :
    significand (magnitude + 1) = significand magnitude + 1 ∧
        scale (magnitude + 1) = scale magnitude ∨
      significand magnitude = 2 * hiddenBit - 1 ∧ significand (magnitude + 1) = hiddenBit ∧
        scale (magnitude + 1) = scale magnitude + 1 := by
  unfold significand scale hiddenBit
  split <;> split <;> omega

theorem boundary_lt_succ (magnitude : Nat) : boundary magnitude < boundary (magnitude + 1) := by
  unfold boundary
  rcases significand_succ magnitude with ⟨hs, hg⟩ | ⟨hs, hs', hg⟩
  · rw [hs, hg]
    exact Nat.mul_lt_mul_of_pos_right (by omega) (Nat.two_pow_pos _)
  · rw [hs, hs', hg, Nat.pow_succ', ← Nat.mul_assoc]
    exact Nat.mul_lt_mul_of_pos_right (by decide) (Nat.two_pow_pos _)

theorem boundary_strictMono : StrictMono boundary :=
  strictMono_nat_of_lt_succ boundary_lt_succ

/-- Of two neighbours one significand is even and the other one is not. -/
theorem significand_parity (magnitude : Nat) : significand magnitude % 2 = magnitude % 2 := by
  unfold significand hiddenBit
  split <;> omega

/-! ## What rounds to a double -/

namespace Neighbourhood

/-- What the reals around a double are counted in. -/
def unit (n : Neighbourhood) : ℚ :=
  n.num / n.den

/-- The double, its neighbours and the unit go together as they should. -/
structure Sound (n : Neighbourhood) : Prop where
  /-- There is a unit. -/
  num : 0 < n.num
  /-- It is a fraction. -/
  den : 0 < n.den
  /-- The double is not zero. -/
  value : 4 ≤ n.value
  /-- The reals reach down from it. -/
  lower : n.lower ≤ n.value
  /-- They reach up by two units. -/
  upper : n.upper = n.value + 2

section

variable {n : Neighbourhood} (h : n.Sound)
include h

/-- A candidate is compared without fractions. -/
theorem Sound.le_point_iff (a k : Nat) (p : ℤ) :
    a * (n.num * 10 ^ (-p).toNat) ≤ k * 10 ^ p.toNat * n.den ↔
      a * n.unit ≤ (⟨k, p⟩ : Numeral).value := by
  have hden : (0 : ℚ) < n.den := by exact_mod_cast h.den
  have hten : (0 : ℚ) < 10 ^ (-p).toNat := pow_pos (by norm_num) _
  unfold unit Numeral.value
  rw [zpow_eq_div, ← mul_div_assoc, ← mul_div_assoc, div_le_div_iff₀ hden hten]
  norm_cast
  rw [Nat.mul_assoc a]

theorem Sound.point_le_iff (a k : Nat) (p : ℤ) :
    k * 10 ^ p.toNat * n.den ≤ a * (n.num * 10 ^ (-p).toNat) ↔
      (⟨k, p⟩ : Numeral).value ≤ a * n.unit := by
  have hden : (0 : ℚ) < n.den := by exact_mod_cast h.den
  have hten : (0 : ℚ) < 10 ^ (-p).toNat := pow_pos (by norm_num) _
  unfold unit Numeral.value
  rw [zpow_eq_div, ← mul_div_assoc, ← mul_div_assoc, div_le_div_iff₀ hten hden]
  norm_cast
  rw [Nat.mul_assoc a]

/-- **A candidate rounds to the double** if it lies between the ends; the ends themselves round to
it or not. -/
theorem Sound.holds_iff (k : Nat) (p : ℤ) : n.holds k p = true ↔
    if n.closed then n.lower * n.unit ≤ (⟨k, p⟩ : Numeral).value ∧
      (⟨k, p⟩ : Numeral).value ≤ n.upper * n.unit
    else n.lower * n.unit < (⟨k, p⟩ : Numeral).value ∧
      (⟨k, p⟩ : Numeral).value < n.upper * n.unit := by
  unfold holds
  simp only [Nat.pow_eq]
  split
  · rw [Bool.and_eq_true, decide_eq_true_eq, decide_eq_true_eq, h.le_point_iff, h.point_le_iff]
  · rw [Bool.and_eq_true, decide_eq_true_eq, decide_eq_true_eq, ← Nat.not_le, ← Nat.not_le,
      h.point_le_iff, h.le_point_iff, not_le, not_le]

/-- The greatest multiple of a power of ten that does not exceed the double. -/
def floor (n : Neighbourhood) (p : ℤ) : Nat :=
  n.value * (n.num * 10 ^ (-p).toNat) / (n.den * 10 ^ p.toNat)

omit h in
theorem nearest?_eq (n : Neighbourhood) (p : ℤ) : n.nearest? p =
    match n.holds (n.floor p) p, n.holds (n.floor p + 1) p with
    | true, true =>
      let rest := n.value * (n.num * 10 ^ (-p).toNat) % (n.den * 10 ^ p.toNat)
      if 2 * rest < n.den * 10 ^ p.toNat then some (n.floor p)
      else if n.den * 10 ^ p.toNat < 2 * rest then some (n.floor p + 1)
      else some (n.floor p + n.floor p % 2)
    | true, false => some (n.floor p)
    | false, true => some (n.floor p + 1)
    | false, false => none := by
  unfold floor
  rw [← Nat.mul_assoc]
  rfl

omit h in
/-- What is found is one of the two multiples around the double, and rounds to it; nothing is found
only if the upper one does not. -/
theorem nearest?_spec (n : Neighbourhood) (p : ℤ) :
    (n.nearest? p = none → n.holds (n.floor p + 1) p = false) ∧
      ∀ k, n.nearest? p = some k → n.holds k p = true ∧ n.floor p ≤ k := by
  rw [nearest?_eq]
  cases hbelow : n.holds (n.floor p) p <;> cases habove : n.holds (n.floor p + 1) p
  · exact ⟨fun _ => rfl, nofun⟩
  · refine ⟨nofun, ?_⟩
    rintro k ⟨⟩
    exact ⟨habove, Nat.le_succ _⟩
  · refine ⟨nofun, ?_⟩
    rintro k ⟨⟩
    exact ⟨hbelow, Nat.le_refl _⟩
  · dsimp only
    split
    · exact ⟨nofun, fun k hk => Option.some.inj hk ▸ ⟨hbelow, Nat.le_refl _⟩⟩
    split
    · exact ⟨nofun, fun k hk => Option.some.inj hk ▸ ⟨habove, Nat.le_succ _⟩⟩
    · refine ⟨nofun, fun k hk => ?_⟩
      obtain rfl := Option.some.inj hk
      rcases Nat.mod_two_eq_zero_or_one (n.floor p) with heven | hodd
      · rw [heven]
        exact ⟨hbelow, Nat.le_refl _⟩
      · rw [hodd]
        exact ⟨habove, Nat.le_succ _⟩

/-- A power of ten below two units has a multiple that rounds to the double. -/
theorem Sound.exists_nearest? {p : ℤ} (hfine : (10 : ℚ) ^ p < 2 * n.unit) :
    ∃ k, k ≠ 0 ∧ n.nearest? p = some k := by
  let scale := n.num * 10 ^ (-p).toNat
  let step := n.den * 10 ^ p.toNat
  have hstep : step < 2 * scale := by
    have hden : (0 : ℚ) < n.den := by exact_mod_cast h.den
    have hten : (0 : ℚ) < 10 ^ (-p).toNat := pow_pos (by norm_num) _
    unfold unit at hfine
    rw [zpow_eq_div, ← mul_div_assoc, div_lt_div_iff₀ hten hden] at hfine
    have hnat : 10 ^ p.toNat * n.den < 2 * n.num * 10 ^ (-p).toNat := by exact_mod_cast hfine
    rwa [Nat.mul_comm, Nat.mul_assoc] at hnat
  have hpos : 0 < step := Nat.mul_pos h.den (Nat.pow_pos (by decide))
  have hbelow : n.floor p * step ≤ n.value * scale := Nat.div_mul_le_self ..
  have habove : n.value * scale < (n.floor p + 1) * step := by
    rw [Nat.mul_comm _ step]
    exact Nat.lt_mul_div_succ (n.value * scale) hpos
  have hnext : (n.floor p + 1) * step = n.floor p * step + step := Nat.succ_mul ..
  have hfloor : n.floor p ≠ 0 := by
    intro h0
    have hle : 4 * scale ≤ n.value * scale := Nat.mul_le_mul_right scale h.value
    rw [h0, Nat.zero_add, Nat.one_mul] at habove
    omega
  -- the multiple above the double is not beyond the reals that round to it
  have hholds : n.holds (n.floor p + 1) p = true := by
    have hlower : n.lower * scale ≤ n.value * scale := Nat.mul_le_mul_right scale h.lower
    have hupper : n.upper * scale = n.value * scale + 2 * scale := by rw [h.upper, Nat.add_mul]
    have hpoint : (n.floor p + 1) * 10 ^ p.toNat * n.den = (n.floor p + 1) * step := by
      rw [Nat.mul_assoc, Nat.mul_comm (10 ^ p.toNat)]
    have hin : n.lower * scale < (n.floor p + 1) * step ∧
        (n.floor p + 1) * step < n.upper * scale := by omega
    unfold holds
    simp only [Nat.pow_eq, hpoint]
    split
    · exact Bool.and_eq_true_iff.2
        ⟨decide_eq_true (Nat.le_of_lt hin.1), decide_eq_true (Nat.le_of_lt hin.2)⟩
    · exact Bool.and_eq_true_iff.2 ⟨decide_eq_true hin.1, decide_eq_true hin.2⟩
  obtain ⟨hnone, hsome⟩ := nearest?_spec n p
  cases hk : n.nearest? p with
  | none => exact absurd (hnone hk) (by rw [hholds]; exact nofun)
  | some k => exact ⟨k, fun h0 => hfloor (Nat.le_zero.1 (h0 ▸ (hsome k hk).2)), rfl⟩

end

/-- A search that comes to a power of ten with a multiple finds one that rounds to the double. -/
theorem search_finds {n : Neighbourhood} {p : ℤ} {fuel j k : Nat} (hj : j < fuel) (hk : k ≠ 0)
    (hfound : n.nearest? (p - j) = some k) :
    (n.search p fuel).digits ≠ 0 ∧
      n.holds (n.search p fuel).digits (n.search p fuel).exponent = true := by
  induction fuel generalizing p j with
  | zero => exact absurd hj (Nat.not_lt_zero j)
  | succ fuel ih =>
    have hlater : ∀ (hne : ∀ k', n.nearest? p = some k' → k' = 0),
        (n.search (p - 1) fuel).digits ≠ 0 ∧ n.holds (n.search (p - 1) fuel).digits
          (n.search (p - 1) fuel).exponent = true := by
      intro hne
      cases j with
      | zero => exact absurd (hne k (by simpa using hfound)) hk
      | succ j =>
        refine ih (Nat.lt_of_succ_lt_succ hj) ?_
        rwa [Nat.cast_succ, ← sub_sub, sub_right_comm] at hfound
    unfold search
    split
    · rename_i k' hk'
      split
      · rename_i h0
        exact hlater fun k'' hk'' => Option.some.inj (hk''.symm.trans hk') ▸ h0
      · rename_i h0
        exact ⟨h0, ((nearest?_spec n p).2 k' hk').1⟩
    · rename_i hnone
      exact hlater fun k' hk' => absurd (hnone.symm.trans hk') nofun

theorem ceilingPower_le (n : Neighbourhood) (p : ℤ) (fuel : Nat) :
    n.ceilingPower p fuel ≤ p + fuel := by
  induction fuel generalizing p with
  | zero => simp [ceilingPower]
  | succ fuel ih =>
    unfold ceilingPower
    have hnext := ih (p + 1)
    split <;> push_cast <;> omega

end Neighbourhood

/-! ## The shortest decimal of a double -/

section

variable (d : Double)

theorem closed_neighbourhood : (neighbourhood d).closed = decide (d.magnitude % 2 = 0) := by
  simp [neighbourhood, mantissaExponent_eq, significand_parity]

theorem upper_neighbourhood :
    (neighbourhood d).upper * 2 ^ scale d.magnitude = boundary d.magnitude := by
  simp [neighbourhood, mantissaExponent_eq, boundary]

theorem unit_neighbourhood : (neighbourhood d).unit = 2 ^ scale d.magnitude * grain := by
  have hneg : 2 - ((scale d.magnitude : ℤ) - 1074) = -((scale d.magnitude : ℤ) - 1074 - 2) := by
    ring
  have hexponent : (scale d.magnitude : ℤ) - 1074 - 2 = scale d.magnitude + -1076 := by ring
  unfold Neighbourhood.unit neighbourhood grain
  simp only [mantissaExponent_eq, Nat.pow_eq, hneg]
  rw [Nat.cast_pow, Nat.cast_pow, Nat.cast_two, ← zpow_eq_div, hexponent,
    zpow_add₀ two_ne_zero, zpow_natCast]

variable {d} (h : d.magnitude ≠ 0)
include h

/-- The reals that round to a double begin where those that round to the previous one end. -/
theorem lower_neighbourhood :
    (neighbourhood d).lower * 2 ^ scale d.magnitude = boundary (d.magnitude - 1) := by
  obtain ⟨magnitude, hm⟩ : ∃ n, d.magnitude = n + 1 := Nat.exists_eq_succ_of_ne_zero h
  have hbits : exponentBits d.bits = (magnitude + 1) / hiddenBit := by rw [← hm, magnitude_div]
  unfold neighbourhood boundary
  simp only [mantissaExponent_eq, hm, hbits, Nat.add_sub_cancel]
  rcases significand_succ magnitude with ⟨hs, hg⟩ | ⟨hs, hs', hg⟩
  · -- the gap below is as wide as the gap above, unless the units begin here
    have hwide : ¬(significand (magnitude + 1) = hiddenBit ∧ 1 < (magnitude + 1) / hiddenBit) := by
      rintro ⟨hfirst, hnormal⟩
      unfold significand hiddenBit at hs hfirst
      unfold hiddenBit at hnormal
      split_ifs at hs hfirst <;> omega
    rw [if_neg (by simpa only [Bool.and_eq_true, decide_eq_true_eq] using hwide), hs, hg]
    congr 1
  · have hnarrow : significand (magnitude + 1) = hiddenBit ∧ 1 < (magnitude + 1) / hiddenBit := by
      unfold scale at hg
      exact ⟨hs', by omega⟩
    rw [if_pos (by simpa only [Bool.and_eq_true, decide_eq_true_eq] using hnarrow), hs', hs, hg,
      Nat.pow_succ', ← Nat.mul_assoc]
    congr 1

theorem sound_neighbourhood : (neighbourhood d).Sound := by
  have hs := significand_ne_zero h
  refine ⟨Nat.pow_pos (by decide), Nat.pow_pos (by decide), ?_, ?_, ?_⟩ <;>
    simp only [neighbourhood, mantissaExponent_eq]
  · omega
  · split <;> omega

end

/-- Sixteen digits below a power of two there is less than the gap between two doubles. -/
theorem ten_zpow_lt {e : ℤ} (hlow : -1074 ≤ e) (hhigh : e ≤ 1023) {p : ℤ}
    (hp : p ≤ e * 30102 / 100000 - 16) : (10 : ℚ) ^ p < 2 ^ (e - 53) := by
  -- one comparison for each power of two that a double can begin with
  have hall : (List.range 2098).all (fun i : Nat =>
      10 ^ (((i : ℤ) - 1074) * 30102 / 100000 - 16).toNat * 2 ^ (-((i : ℤ) - 1074 - 53)).toNat <
        2 ^ ((i : ℤ) - 1074 - 53).toNat * 10 ^ (-(((i : ℤ) - 1074) * 30102 / 100000 - 16)).toNat) =
        true := by
    decide +kernel
  have hnat : 10 ^ (e * 30102 / 100000 - 16).toNat * 2 ^ (-(e - 53)).toNat <
      2 ^ (e - 53).toNat * 10 ^ (-(e * 30102 / 100000 - 16)).toNat := by
    have hi := List.all_eq_true.1 hall (e + 1074).toNat (List.mem_range.2 (by omega))
    rwa [Int.toNat_of_nonneg (by omega), add_sub_cancel_right, decide_eq_true_eq] at hi
  have hpos : ∀ (b : ℚ) (n : Nat), 0 < b → 0 < b ^ n := fun _ n hb => pow_pos hb n
  calc (10 : ℚ) ^ p ≤ 10 ^ (e * 30102 / 100000 - 16) := zpow_le_zpow_right₀ (by norm_num) hp
    _ < 2 ^ (e - 53) := by
      rw [zpow_eq_div, zpow_eq_div 2, div_lt_div_iff₀ (hpos _ _ (by norm_num))
        (hpos _ _ (by norm_num))]
      exact_mod_cast hnat

section

variable {d : Double} (h : d.magnitude ≠ 0)
include h

/-- The search comes to powers of ten that are fine enough. -/
theorem ten_zpow_lt_unit {p : ℤ}
    (hp : p ≤ ((significand d.magnitude).log2 + ((scale d.magnitude : ℤ) - 1074)) * 30102 / 100000
      - 16) : (10 : ℚ) ^ p < 2 * (neighbourhood d).unit := by
  have hlog : (significand d.magnitude).log2 < 53 :=
    (Nat.log2_lt (significand_ne_zero h)).2 (significand_lt _)
  have hscale : scale d.magnitude < 2046 := by
    have := d.finite
    unfold scale
    rw [magnitude_div]
    omega
  have hunit : 2 * (neighbourhood d).unit = 2 ^ ((scale d.magnitude : ℤ) - 1075) := by
    have hexponent : (scale d.magnitude : ℤ) - 1075 = 1 + (scale d.magnitude + -1076) := by ring
    rw [unit_neighbourhood, hexponent, zpow_add₀ two_ne_zero, zpow_add₀ two_ne_zero, zpow_one,
      zpow_natCast]
    rfl
  rw [hunit]
  exact lt_of_lt_of_le (ten_zpow_lt (by omega) (by omega) hp)
    (zpow_le_zpow_right₀ (by norm_num) (by omega))

/-- **The shortest decimal rounds to its double**, and is not zero. -/
theorem shortest_holds : (shortest d).digits ≠ 0 ∧
    (neighbourhood d).holds (shortest d).digits (shortest d).exponent = true := by
  have hsound := sound_neighbourhood h
  unfold shortest
  rw [if_neg h, mantissaExponent_eq]
  dsimp only
  let start : ℤ :=
    ((significand d.magnitude).log2 + ((scale d.magnitude : ℤ) - 1074)) * 30102 / 100000 - 1
  let top := (neighbourhood d).ceilingPower start 4
  have htop : top ≤ start + 4 := Neighbourhood.ceilingPower_le ..
  have hfine : (10 : ℚ) ^ (top - (19 : ℕ)) < 2 * (neighbourhood d).unit :=
    ten_zpow_lt_unit h (by push_cast; omega)
  obtain ⟨k, hk, hfound⟩ := hsound.exists_nearest? hfine
  exact Neighbourhood.search_finds (by decide : 19 < 20) hk hfound

/-- Its value lies between the boundaries of the magnitude. -/
theorem shortest_between :
    boundary (d.magnitude - 1) * grain ≤ (shortest d).value ∧
      (shortest d).value ≤ boundary d.magnitude * grain ∧
      (d.magnitude % 2 ≠ 0 → boundary (d.magnitude - 1) * grain < (shortest d).value ∧
        (shortest d).value < boundary d.magnitude * grain) := by
  have hholds := ((sound_neighbourhood h).holds_iff _ _).1 (shortest_holds h).2
  have hlower : (neighbourhood d).lower * (neighbourhood d).unit =
      boundary (d.magnitude - 1) * grain := by
    rw [unit_neighbourhood, ← lower_neighbourhood h]
    push_cast
    ring
  have hupper : (neighbourhood d).upper * (neighbourhood d).unit =
      boundary d.magnitude * grain := by
    rw [unit_neighbourhood, ← upper_neighbourhood]
    push_cast
    ring
  rw [hlower, hupper, closed_neighbourhood] at hholds
  by_cases heven : d.magnitude % 2 = 0
  · rw [if_pos (by simpa using heven)] at hholds
    exact ⟨hholds.1, hholds.2, fun hodd => absurd heven hodd⟩
  · rw [if_neg (by simpa using heven)] at hholds
    exact ⟨hholds.1.le, hholds.2.le, fun _ => hholds⟩

end

theorem shortest_zero {d : Double} (h : d.magnitude = 0) : shortest d = ⟨0, 0⟩ :=
  if_pos h

/-- A smaller magnitude has no decimal of the same value. -/
theorem value_ne_of_lt {a b : Double} (ha : a.magnitude ≠ 0) (h : a.magnitude < b.magnitude) :
    (shortest a).value ≠ (shortest b).value := by
  intro hvalue
  obtain ⟨-, hhigh, hstrict⟩ := shortest_between ha
  obtain ⟨hlow, -, hstrict'⟩ := shortest_between (d := b) (by omega)
  have hgrain : (0 : ℚ) < grain := zpow_pos (by norm_num) _
  have hle : boundary (b.magnitude - 1) ≤ boundary a.magnitude := by
    have := (hlow.trans (hvalue ▸ hhigh))
    exact_mod_cast le_of_mul_le_mul_right this hgrain
  have hnext : b.magnitude - 1 = a.magnitude :=
    le_antisymm (boundary_strictMono.le_iff_le.1 hle) (by omega)
  -- the value is the boundary between the two, which rounds to the even one only
  rw [hnext] at hlow hstrict'
  by_cases hodd : a.magnitude % 2 = 0
  · exact absurd (hvalue ▸ hhigh) (not_le.2 (hstrict' (by omega)).1)
  · exact absurd (hvalue ▸ hlow) (not_le.2 (hstrict hodd).2)

/-- **The shortest decimal tells the doubles apart**, up to their signs. -/
theorem magnitude_eq_of_value_eq {a b : Double} (h : (shortest a).value = (shortest b).value) :
    a.magnitude = b.magnitude := by
  have hzero : ∀ {a b : Double}, a.magnitude = 0 → b.magnitude ≠ 0 →
      (shortest a).value ≠ (shortest b).value := by
    intro a b ha hb hvalue
    have hpos := Numeral.value_pos (shortest_holds hb).1
    rw [← hvalue, shortest_zero ha] at hpos
    simp [Numeral.value] at hpos
  by_cases ha : a.magnitude = 0
  · by_cases hb : b.magnitude = 0
    · rw [ha, hb]
    · exact absurd h (hzero ha hb)
  · by_cases hb : b.magnitude = 0
    · exact absurd h.symm (hzero hb ha)
    · rcases lt_trichotomy a.magnitude b.magnitude with hlt | heq | hgt
      · exact absurd h (value_ne_of_lt ha hlt)
      · exact heq
      · exact absurd h.symm (value_ne_of_lt hb hgt)

namespace Double

theorem ext_magnitude {a b : Double} (hm : a.magnitude = b.magnitude)
    (hs : a.isNegative = b.isNegative) : a = b := by
  have ha := a.bits.toNat_lt
  have hb := b.bits.toNat_lt
  obtain ⟨x, hx⟩ := a
  obtain ⟨y, hy⟩ := b
  have hbits : x.toNat = y.toNat := by
    unfold magnitude at hm
    unfold isNegative at hs
    rw [decide_eq_decide] at hs
    dsimp only at *
    omega
  obtain rfl := UInt64.toNat_inj.1 hbits
  rfl

end Double
end LiveSync.Decimal
