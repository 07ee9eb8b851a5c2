import LiveSync.Proofs.Payload.KeyCase
import Mathlib

/-!
# The names that come back

A name that is written in the other case and then in the first again is the same name exactly if it
is canonical.  That canonical names come back is shown with the two cases; here is that no others
do.

* `isAlpha_of_camelChars_snakeChars` — what comes back from snake case has no underscore in front of
  a letter.
* `isLower_of_snakeChars_camelChars` — what comes back from camel case has no two underscores in
  front of a small letter.
* `camelCanonical_of_eq`, `snakeCanonical_of_eq` — the same for names.
* `toCamel_toSnake_eq_iff`, `toSnake_toCamel_eq_iff` — the condition for each way.
* `returns_iff_canonical` — the two ways together.
-/

namespace LiveSync.Payload

/-! ## Inside a name -/

/-- What begins with no letter begins with none in snake case. -/
theorem head_snakeChars {cs : List Char} (h : ∀ c ∈ cs.head?, c.isAlpha = false)
    (before : Option Char) : ∀ c ∈ (snakeChars before cs).head?, c.isLower = false := by
  cases cs with
  | nil => exact nofun
  | cons e cs =>
    have he := h e rfl
    rw [Char.isAlpha, Bool.or_eq_false_iff] at he
    rw [snakeChars_cons he.1]
    rintro _ ⟨⟩
    exact he.2

/-- An underscore that comes back from snake case has no letter behind it: the letter would be a
small one there, and camel case would join the two. -/
theorem isAlpha_of_underscore_back {cs rest : List Char}
    (h : camelChars true ('_' :: snakeChars (some '_') cs) = '_' :: rest) :
    ∀ c ∈ cs.head?, c.isAlpha = false := by
  have hjoined : ∀ c ds, snakeChars (some '_') cs = c :: ds → c.isLower = false := by
    intro c ds heq
    refine Bool.eq_false_of_not_eq_true fun hlower => ?_
    rw [heq, camelChars_joined hlower] at h
    exact toUpper_ne_underscore hlower (List.cons.inj h).1
  cases cs with
  | nil => exact nofun
  | cons e cs =>
    rintro _ ⟨⟩
    cases he : e.isUpper with
    | true =>
      have hlower := hjoined _ _ (snakeChars_capital_underscore he cs)
      rw [isLower_toLower he] at hlower
      exact absurd hlower nofun
    | false =>
      rw [Char.isAlpha, he, Bool.false_or]
      exact hjoined _ _ (snakeChars_cons he _ cs)

/-- **What comes back from snake case**, with the character that precedes: no underscore stands in
front of a letter. -/
theorem isAlpha_of_camelChars_snakeChars {b : Char} {cs : List Char}
    (hback : camelChars true (snakeChars (some b) cs) = cs)
    (hhead : b = '_' → ∀ c ∈ cs.head?, c.isAlpha = false) :
    ∀ c, ['_', c] <:+: b :: cs → c.isAlpha = false := by
  induction cs generalizing b with
  | nil =>
    intro c hc
    exact absurd hc.length_le (by simp)
  | cons d cs ih =>
    -- what stands in front of `d` is settled by `hhead`, the rest by the induction
    have hfirst : (∀ c, ['_', c] <:+: d :: cs → c.isAlpha = false) →
        ∀ c, ['_', c] <:+: b :: d :: cs → c.isAlpha = false := by
      intro hrest c hc
      rcases List.infix_cons_iff.1 hc with ⟨_, ht⟩ | hc
      · obtain ⟨rfl, rfl, -⟩ : '_' = b ∧ c = d ∧ _ := by simpa using ht
        exact hhead rfl c rfl
      · exact hrest c hc
    by_cases hd : d.isUpper = true
    · have hd' : d ≠ '_' := by
        rintro rfl
        exact absurd hd (by decide)
      have hb : b ≠ '_' := by
        intro hb
        have halpha := hhead hb d rfl
        rw [Char.isAlpha, hd, Bool.true_or] at halpha
        exact absurd halpha nofun
      rw [snakeChars_capital hb hd, camelChars_joined (isLower_toLower hd), toUpper_toLower hd]
        at hback
      exact hfirst (ih (List.cons.inj hback).2 fun heq => absurd heq hd')
    · rw [snakeChars_cons (Bool.eq_false_of_not_eq_true hd)] at hback
      by_cases hu : d = '_'
      · subst hu
        have hletter : ∀ c ∈ cs.head?, c.isAlpha = false := isAlpha_of_underscore_back hback
        rw [camelChars_kept (head_snakeChars hletter _)] at hback
        exact hfirst (ih (List.cons.inj hback).2 fun _ => hletter)
      · rw [camelChars_cons hu] at hback
        exact hfirst (ih (List.cons.inj hback).2 fun heq => absurd heq hu)

/-- **What comes back from camel case**, with the underscore that may precede. -/
theorem isLower_of_snakeChars_camelChars {b : Char} {cs : List Char}
    (hupper : ∀ c ∈ cs, c.isUpper = false)
    (hback : snakeChars (some b) (camelChars true cs) = cs) :
    (b = '_' → ∀ c, ['_', c] <+: cs → c.isLower = false) ∧
      ∀ c, ['_', '_', c] <:+: cs → c.isLower = false := by
  generalize hbegun : true = begun at hback
  fun_induction camelChars begun cs generalizing b with
  | case1 =>
    exact ⟨fun _ c hc => absurd hc.length_le (by simp), fun c hc => absurd hc.length_le (by simp)⟩
  | case2 begun c cs hjoined ih =>
    obtain ⟨-, hc⟩ := (Bool.and_eq_true ..).mp hjoined
    have hc' : c ≠ '_' := ne_underscore_of_isLower hc
    have hb : b ≠ '_' := by
      rintro rfl
      rw [snakeChars_capital_underscore (isUpper_toUpper hc), toLower_toUpper hc] at hback
      exact hc' (List.cons.inj hback).1
    rw [snakeChars_capital hb (isUpper_toUpper hc), toLower_toUpper hc] at hback
    have hrest := ih (fun d hd => hupper d (by simp [hd])) rfl
      (List.cons.inj (List.cons.inj hback).2).2
    refine ⟨fun heq => absurd heq hb, fun d hd => ?_⟩
    rcases List.infix_cons_iff.1 hd with ⟨_, ht⟩ | hd
    · exact absurd (by simpa using ht : '_' = c ∧ _).1.symm hc'
    rcases List.infix_cons_iff.1 hd with ⟨_, ht⟩ | hd
    · exact absurd (by simpa using ht : '_' = c ∧ _).1.symm hc'
    · exact hrest.2 d hd
  | case3 begun c cs hkept ih =>
    have hc : c.isLower = false := by simpa [← hbegun] using hkept
    rw [snakeChars_cons rfl] at hback
    have hrest := ih (fun d hd => hupper d (List.mem_cons_of_mem _ hd)) hbegun
      (List.cons.inj hback).2
    refine ⟨fun _ d hd => ?_, fun d hd => ?_⟩
    · obtain ⟨_, ht⟩ := hd
      obtain ⟨rfl, -⟩ : d = c ∧ _ := by simpa using ht
      exact hc
    · rcases List.infix_cons_iff.1 hd with hd | hd
      · exact hrest.1 rfl d ((List.prefix_cons_inj '_').1 hd)
      · exact hrest.2 d hd
  | case4 begun c cs hlast ih =>
    rw [snakeChars_cons (hupper c List.mem_cons_self)] at hback
    have hrest := ih (fun d hd => hupper d (List.mem_cons_of_mem _ hd))
      (by rw [← hbegun, Bool.true_or]) (List.cons.inj hback).2
    -- an underscore that is read here stands at the end
    have hend : ∀ d rest, '_' :: d :: rest ≠ c :: cs := by
      intro d rest heq
      obtain ⟨rfl, rfl⟩ := List.cons.inj heq
      exact hlast d rest rfl rfl
    refine ⟨fun _ d hd => ?_, fun d hd => ?_⟩
    · obtain ⟨_, ht⟩ := hd
      exact absurd ht (hend d _)
    · rcases List.infix_cons_iff.1 hd with ⟨_, ht⟩ | hd
      · exact absurd ht (hend '_' _)
      · exact hrest.2 d hd

/-! ## Names -/

variable {key : String}

theorem stem_eq_nil (h : ∀ c ∈ key.toList, c = '_') : stem key = [] :=
  List.dropWhile_eq_nil_iff.2 fun c hc => decide_eq_true (h c hc)

/-- Names that agree up to the first character that is no underscore. -/
theorem eq_of_ofList_append {us cs ds : List Char} {c : Char} (hkey : key.toList = us ++ c :: cs)
    (h : String.ofList (us ++ c :: ds) = key) : ds = cs := by
  rw [← h, String.toList_ofList] at hkey
  exact (List.cons.inj (List.append_cancel_left hkey)).2

theorem camelCanonical_of_eq (hkey : isIdentifier key = true)
    (hback : toCamel (toSnake key) = key) : CamelCanonical key := by
  rcases shape_of_isIdentifier hkey with hall | ⟨us, c, cs, hshape, hus, hstem, hc, -⟩
  · intro d hd
    rw [stem_eq_nil hall] at hd
    exact absurd hd.length_le (by simp)
  · unfold toCamel toSnake at hback
    rw [String.toList_ofList, hshape, snakeChars_shape hus hc, camelChars_shape hus hc] at hback
    have hinner : camelChars true (snakeChars (some c) cs) = cs := eq_of_ofList_append hshape hback
    intro d hd
    rw [hstem] at hd
    exact isAlpha_of_camelChars_snakeChars hinner
      (fun heq => absurd heq (ne_underscore_of_isLower hc)) d hd

theorem snakeCanonical_of_eq (hkey : isIdentifier key = true)
    (hback : toSnake (toCamel key) = key) : SnakeCanonical key := by
  have hupper : ∀ c ∈ key.toList, c.isUpper = false := by
    rw [← hback, toSnake, String.toList_ofList]
    exact not_isUpper_snakeChars none _
  refine ⟨hupper, ?_⟩
  rcases shape_of_isIdentifier hkey with hall | ⟨us, c, cs, hshape, hus, hstem, hc, -⟩
  · intro b d hd
    rw [stem_eq_nil hall] at hd
    exact absurd hd.length_le (by simp)
  · have hc' : c ≠ '_' := ne_underscore_of_isLower hc
    unfold toCamel toSnake at hback
    rw [String.toList_ofList, hshape, camelChars_shape hus hc, snakeChars_shape hus hc] at hback
    have hinner : snakeChars (some c) (camelChars true cs) = cs := eq_of_ofList_append hshape hback
    rw [hshape] at hupper
    have hdoubled := (isLower_of_snakeChars_camelChars (fun d hd => hupper d (by simp [hd]))
      hinner).2
    rintro _ d hd hlower rfl
    rw [hstem] at hd
    rcases List.infix_cons_iff.1 hd with ⟨_, ht⟩ | hd
    · exact hc' (List.cons.inj ht).1.symm
    · rw [hdoubled d hd] at hlower
      exact absurd hlower nofun

/-- **The names that come back from snake case.** -/
theorem toCamel_toSnake_eq_iff (hkey : isIdentifier key = true) :
    toCamel (toSnake key) = key ↔ CamelCanonical key :=
  ⟨camelCanonical_of_eq hkey, toCamel_toSnake hkey⟩

/-- **The names that come back from camel case.** -/
theorem toSnake_toCamel_eq_iff (hkey : isIdentifier key = true) :
    toSnake (toCamel key) = key ↔ SnakeCanonical key :=
  ⟨snakeCanonical_of_eq hkey, toSnake_toCamel hkey⟩

/-- **A name comes back from the other case exactly if it is canonical in its own.** -/
theorem returns_iff_canonical (key : String) (hkey : isIdentifier key = true) :
    (toCamel (toSnake key) = key ↔ CamelCanonical key) ∧
      (toSnake (toCamel key) = key ↔ SnakeCanonical key) :=
  ⟨toCamel_toSnake_eq_iff hkey, toSnake_toCamel_eq_iff hkey⟩

/-- Two underscores in front of a digit and a capital in the middle: the name comes back from snake
case, and not from camel case. -/
theorem returns_iff_canonical_digits :
    isIdentifier "__fooBar__1x_" = true ∧ CamelCanonical "__fooBar__1x_" ∧
      ¬SnakeCanonical "__fooBar__1x_" := by
  obtain ⟨hcamel, hsnake⟩ := returns_iff_canonical "__fooBar__1x_" (by decide +kernel)
  exact ⟨by decide +kernel, hcamel.1 (by decide +kernel), fun h => absurd (hsnake.2 h)
    (by decide +kernel)⟩

end LiveSync.Payload
