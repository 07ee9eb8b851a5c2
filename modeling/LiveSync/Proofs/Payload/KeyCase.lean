import LiveSync.Payload.KeyCase
import Mathlib

/-!
# Names in two cases

Writing a name in a case a second time changes nothing.  Whether the way to one case leads back from
the other depends on the underscores behind the first character that is none: in front of a letter
they get lost on the way to camel case, unless the letter is small and no further underscore stands
before them.

* `snakeChars_eq_self`, `toSnake_toSnake` — names without capitals are in snake case.
* `camelChars_camelChars`, `toCamel_toCamel` — the same for camel case.
* `CamelCanonical`, `SnakeCanonical` — the names that come back from the other case.
* `camelChars_snakeChars`, `snakeChars_camelChars` — the way back, character by character.
* `toCamel_toSnake`, `toSnake_toCamel` — the way back for a name.
* `isIdentifier_apply` — what may be re-cased stays so.
-/

namespace LiveSync.Payload

/-! ## Letters -/

section

variable {c : Char}

theorem isUpper_toUpper (h : c.isLower = true) : c.toUpper.isUpper = true := by
  rw [Char.isUpper_toUpper_eq_isAlpha, Char.isAlpha, h, Bool.or_true]

theorem isLower_toLower (h : c.isUpper = true) : c.toLower.isLower = true := by
  rw [Char.isLower_toLower_eq_isAlpha, Char.isAlpha, h, Bool.true_or]

theorem toLower_toUpper (h : c.isLower = true) : c.toUpper.toLower = c := by
  rw [Char.toLower_toUpper_eq_toLower,
    Char.toLower_eq_of_not_isUpper (Char.not_isUpper_of_isLower h)]

theorem toUpper_toLower (h : c.isUpper = true) : c.toLower.toUpper = c := by
  rw [Char.toUpper_toLower_eq_toUpper,
    Char.toUpper_eq_of_not_isLower (Char.not_isLower_of_isUpper h)]

end

/-! ## Snake case -/

/-- At the start nothing precedes, as after an underscore. -/
theorem snakeChars_none (cs : List Char) : snakeChars none cs = snakeChars (some '_') cs := by
  cases cs <;> simp [snakeChars]

theorem snakeChars_cons {c : Char} (h : c.isUpper = false) (before : Option Char)
    (cs : List Char) : snakeChars before (c :: cs) = c :: snakeChars (some c) cs := by
  rw [snakeChars.eq_def]
  simp only [h, Bool.false_eq_true, if_false]

/-- A capital inside a name. -/
theorem snakeChars_capital {b c : Char} (hb : b ≠ '_') (h : c.isUpper = true) (cs : List Char) :
    snakeChars (some b) (c :: cs) = '_' :: c.toLower :: snakeChars (some c) cs := by
  simp [snakeChars, h, hb]

/-- A capital behind an underscore. -/
theorem snakeChars_capital_underscore {c : Char} (h : c.isUpper = true) (cs : List Char) :
    snakeChars (some '_') (c :: cs) = c.toLower :: snakeChars (some c) cs := by
  simp [snakeChars, h]

/-- Underscores in front of a name stay. -/
theorem snakeChars_underscores {us : List Char} (h : ∀ u ∈ us, u = '_') (cs : List Char) :
    snakeChars (some '_') (us ++ cs) = us ++ snakeChars (some '_') cs := by
  induction us with
  | nil => rfl
  | cons u us ih =>
    obtain rfl : u = '_' := h u List.mem_cons_self
    rw [List.cons_append, snakeChars_cons rfl, ih fun v hv => h v (List.mem_cons_of_mem _ hv),
      List.cons_append]

/-- Without capitals there is nothing to change. -/
theorem snakeChars_eq_self {cs : List Char} (h : ∀ c ∈ cs, c.isUpper = false)
    (before : Option Char) : snakeChars before cs = cs := by
  induction cs generalizing before with
  | nil => rfl
  | cons c cs ih =>
    rw [snakeChars_cons (h c List.mem_cons_self), ih fun d hd => h d (List.mem_cons_of_mem _ hd)]

/-- No capital is left. -/
theorem not_isUpper_snakeChars (before : Option Char) (cs : List Char) :
    ∀ c ∈ snakeChars before cs, c.isUpper = false := by
  induction cs generalizing before with
  | nil => exact nofun
  | cons c cs ih =>
    have hlower : ∀ d ∈ c.toLower :: snakeChars (some c) cs, d.isUpper = false :=
      List.forall_mem_cons.2 ⟨Char.isUpper_toLower_eq_false c, ih (some c)⟩
    unfold snakeChars
    split
    · split
      · exact hlower
      · split
        · exact hlower
        · exact List.forall_mem_cons.2 ⟨rfl, hlower⟩
    · rename_i h
      exact List.forall_mem_cons.2 ⟨Bool.eq_false_of_not_eq_true h, ih (some c)⟩

theorem toSnake_toSnake (key : String) : toSnake (toSnake key) = toSnake key := by
  unfold toSnake
  rw [String.toList_ofList, snakeChars_eq_self (not_isUpper_snakeChars none _)]

/-! ## Camel case -/

/-- Underscores before the name has begun stay. -/
theorem camelChars_underscore (cs : List Char) :
    camelChars false ('_' :: cs) = '_' :: camelChars false cs := by
  cases cs with
  | nil => rfl
  | cons c cs => rw [camelChars, Bool.false_and, if_neg Bool.false_ne_true]

theorem camelChars_underscores {us : List Char} (h : ∀ u ∈ us, u = '_') (cs : List Char) :
    camelChars false (us ++ cs) = us ++ camelChars false cs := by
  induction us with
  | nil => rfl
  | cons u us ih =>
    obtain rfl : u = '_' := h u List.mem_cons_self
    rw [List.cons_append, camelChars_underscore, ih fun v hv => h v (List.mem_cons_of_mem _ hv),
      List.cons_append]

/-- With any other character the name has begun. -/
theorem camelChars_cons {c : Char} (h : c ≠ '_') (begun : Bool) (cs : List Char) :
    camelChars begun (c :: cs) = c :: camelChars true cs := by
  have hbegun : (begun || c != '_') = true := by simp [h]
  rw [camelChars, hbegun]
  rintro _ _ rfl
  exact absurd rfl h

/-- An underscore and a small letter inside a name. -/
theorem camelChars_joined {c : Char} (h : c.isLower = true) (cs : List Char) :
    camelChars true ('_' :: c :: cs) = c.toUpper :: camelChars true cs := by
  rw [camelChars, h, Bool.true_and, if_pos rfl]

/-- Before anything else an underscore stays. -/
theorem camelChars_kept {cs : List Char} (h : ∀ c ∈ cs.head?, c.isLower = false) :
    camelChars true ('_' :: cs) = '_' :: camelChars true cs := by
  cases cs with
  | nil => rfl
  | cons c cs => rw [camelChars, h c rfl, Bool.and_false, if_neg Bool.false_ne_true]

theorem ne_underscore_of_isLower {c : Char} (h : c.isLower = true) : c ≠ '_' := by
  rintro rfl
  exact absurd h (by decide)

theorem toUpper_ne_underscore {c : Char} (h : c.isLower = true) : c.toUpper ≠ '_' := by
  intro heq
  have hupper : c.toUpper.isUpper = c.isAlpha := Char.isUpper_toUpper_eq_isAlpha c
  rw [heq, Char.isAlpha, h, Bool.or_true] at hupper
  exact absurd hupper (by decide)

/-- A small letter does not come first where there was none. -/
theorem head_camelChars {cs : List Char} (h : ∀ c ∈ cs.head?, c.isLower = false) :
    ∀ c ∈ (camelChars true cs).head?, c.isLower = false := by
  cases cs with
  | nil => exact nofun
  | cons c cs =>
    by_cases hc : c = '_'
    · subst hc
      cases cs with
      | nil => rintro _ ⟨⟩; rfl
      | cons d cs =>
        cases hd : d.isLower with
        | true =>
          rw [camelChars_joined hd]
          rintro _ ⟨⟩
          exact Char.isLower_toUpper_eq_false d
        | false =>
          rw [camelChars_kept (by rintro _ ⟨⟩; exact hd)]
          rintro _ ⟨⟩
          rfl
    · rw [camelChars_cons hc]
      exact h

theorem camelChars_camelChars (begun : Bool) (cs : List Char) :
    camelChars begun (camelChars begun cs) = camelChars begun cs := by
  fun_induction camelChars begun cs with
  | case1 => rfl
  | case2 begun c cs hjoined ih =>
    obtain ⟨rfl, hc⟩ := (Bool.and_eq_true ..).mp hjoined
    rw [camelChars_cons (toUpper_ne_underscore hc), ih]
  | case3 begun c cs hkept ih =>
    cases begun with
    | false => rw [camelChars_underscore, ih]
    | true =>
      have hc : ∀ d ∈ (c :: cs).head?, d.isLower = false := by
        rintro _ ⟨⟩
        simpa using hkept
      rw [camelChars_kept (head_camelChars hc), ih]
  | case4 begun c cs hlast ih =>
    by_cases hc : c = '_'
    · -- an underscore comes here only at the end of the name
      subst hc
      cases cs with
      | nil => cases begun <;> rfl
      | cons d cs => exact absurd rfl (hlast d cs rfl)
    · have hbegun : (begun || c != '_') = true := by simp [hc]
      rw [hbegun] at ih ⊢
      rw [camelChars_cons hc, ih]

theorem toCamel_toCamel (key : String) : toCamel (toCamel key) = toCamel key := by
  unfold toCamel
  rw [String.toList_ofList, camelChars_camelChars]

/-- **Writing a name in a case a second time changes nothing.** -/
theorem KeyCase.apply_apply (case : KeyCase) (key : String) :
    case.apply (case.apply key) = case.apply key := by
  cases case with
  | snake => exact toSnake_toSnake key
  | camel => exact toCamel_toCamel key

/-! ## The way back -/

/-- A name from its first character on that is no underscore. -/
def stem (key : String) : List Char :=
  key.toList.dropWhile (· = '_')

/-- After the first character that is no underscore, no underscore stands directly before a
letter. -/
def CamelCanonical (key : String) : Prop :=
  ∀ c, ['_', c] <:+: stem key → c.isAlpha = false

/-- There is no capital, and after the first character that is no underscore, every underscore
before a small letter stands behind something else than an underscore. -/
def SnakeCanonical (key : String) : Prop :=
  (∀ c ∈ key.toList, c.isUpper = false) ∧
    ∀ b c, [b, '_', c] <:+: stem key → c.isLower = true → b ≠ '_'

/-- Inside a name: to snake case and back. -/
theorem camelChars_snakeChars {b : Char} {cs : List Char}
    (h : ∀ c, ['_', c] <:+: b :: cs → c.isAlpha = false) :
    camelChars true (snakeChars (some b) cs) = cs := by
  induction cs generalizing b with
  | nil => rfl
  | cons d cs ih =>
    have hrest : camelChars true (snakeChars (some d) cs) = cs :=
      ih fun c hc => h c (List.infix_cons hc)
    by_cases hd : d.isUpper = true
    · have hb : b ≠ '_' := by
        rintro rfl
        have halpha := h d ⟨[], cs, rfl⟩
        rw [Char.isAlpha, hd, Bool.true_or] at halpha
        exact absurd halpha nofun
      rw [snakeChars_capital hb hd, camelChars_joined (isLower_toLower hd), toUpper_toLower hd,
        hrest]
    · have hd : d.isUpper = false := Bool.eq_false_of_not_eq_true hd
      rw [snakeChars_cons hd]
      by_cases hu : d = '_'
      · subst hu
        -- what follows the underscore is no letter, so that it is the same in snake case
        have hhead : ∀ c ∈ (snakeChars (some '_') cs).head?, c.isLower = false := by
          cases cs with
          | nil => exact nofun
          | cons e cs =>
            have he := h e ⟨[b], cs, rfl⟩
            rw [Char.isAlpha, Bool.or_eq_false_iff] at he
            rw [snakeChars_cons he.1]
            rintro _ ⟨⟩
            exact he.2
        rw [camelChars_kept hhead, hrest]
      · rw [camelChars_cons hu, hrest]

/-- Inside a name: to camel case and back. -/
theorem snakeChars_camelChars {b : Char} {cs : List Char} (hupper : ∀ c ∈ cs, c.isUpper = false)
    (hfirst : b = '_' → ∀ c, ['_', c] <+: cs → c.isLower = false)
    (hinner : ∀ c, ['_', '_', c] <:+: cs → c.isLower = false) :
    snakeChars (some b) (camelChars true cs) = cs := by
  generalize hbegun : true = begun
  fun_induction camelChars begun cs generalizing b with
  | case1 => rfl
  | case2 begun c cs hjoined ih =>
    obtain ⟨-, hc⟩ := (Bool.and_eq_true ..).mp hjoined
    have hb : b ≠ '_' := fun hb => absurd hc (by rw [hfirst hb c ⟨cs, rfl⟩]; exact nofun)
    have hrest : snakeChars (some c.toUpper) (camelChars true cs) = cs :=
      ih (fun d hd => hupper d (List.mem_cons_of_mem _ (List.mem_cons_of_mem _ hd)))
        (fun heq => absurd heq (toUpper_ne_underscore hc))
        (fun d hd => hinner d (List.infix_cons (List.infix_cons hd))) rfl
    rw [snakeChars_capital hb (isUpper_toUpper hc), toLower_toUpper hc, hrest]
  | case3 begun c cs hkept ih =>
    have hrest : snakeChars (some '_') (camelChars begun (c :: cs)) = c :: cs := by
      refine ih (fun d hd => hupper d (List.mem_cons_of_mem _ hd)) (fun _ d hd => ?_)
        (fun d hd => hinner d (List.infix_cons hd)) hbegun
      exact hinner d ((List.prefix_cons_inj '_').2 hd).isInfix
    rw [snakeChars_cons rfl, hrest]
  | case4 begun c cs hlast ih =>
    have hrest : snakeChars (some c) (camelChars (begun || c != '_') cs) = cs := by
      refine ih (fun d hd => hupper d (List.mem_cons_of_mem _ hd)) (fun hc d hd => ?_)
        (fun d hd => hinner d (List.infix_cons hd)) (by rw [← hbegun, Bool.true_or])
      obtain ⟨rest, rfl⟩ := hd
      exact absurd rfl (hlast '_' (d :: rest) hc)
    rw [snakeChars_cons (hupper c List.mem_cons_self), hrest]

/-! ## Identifiers -/

/-- The characters of which an identifier goes on. -/
def IsWord (cs : List Char) : Prop :=
  ∀ c ∈ cs, (c.isAlphanum || c = '_') = true

/-- Underscores, and then a small letter and what may follow it. -/
theorem isIdentifierChars_append {us cs : List Char} {c : Char} (hus : ∀ u ∈ us, u = '_')
    (hc : c.isLower = true) (hcs : IsWord cs) : isIdentifierChars (us ++ c :: cs) = true := by
  have hdrop : (us ++ c :: cs).dropWhile (· = '_') = c :: cs := by
    rw [List.dropWhile_append_of_pos fun u hu => decide_eq_true (hus u hu),
      List.dropWhile_cons_of_neg (by simpa using ne_underscore_of_isLower hc)]
  unfold isIdentifierChars
  rw [hdrop]
  exact (Bool.and_eq_true ..).mpr ⟨hc, List.all_eq_true.2 hcs⟩

/-- **The shape of an identifier**: underscores alone, or underscores, a small letter and what may
follow it. -/
theorem shape_of_isIdentifier {key : String} (h : isIdentifier key = true) :
    (∀ c ∈ key.toList, c = '_') ∨ ∃ us c cs, key.toList = us ++ c :: cs ∧ (∀ u ∈ us, u = '_') ∧
      stem key = c :: cs ∧ c.isLower = true ∧ IsWord cs := by
  have hsplit : key.toList.takeWhile (· = '_') ++ stem key = key.toList :=
    List.takeWhile_append_dropWhile
  have hus : ∀ u ∈ key.toList.takeWhile (· = '_'), u = '_' :=
    fun u hu => by simpa using List.mem_takeWhile_imp hu
  unfold isIdentifier isIdentifierChars at h
  cases hstem : stem key with
  | nil =>
    rw [hstem, List.append_nil] at hsplit
    exact Or.inl (hsplit ▸ hus)
  | cons c cs =>
    rw [show key.toList.dropWhile (· = '_') = _ from hstem] at h
    obtain ⟨hc, hcs⟩ := (Bool.and_eq_true ..).mp h
    rw [hstem] at hsplit
    exact Or.inr ⟨_, c, cs, hsplit.symm, hus, rfl, hc, List.all_eq_true.1 hcs⟩

/-- Letters may follow. -/
theorem isWord_cons_of_isAlpha {c : Char} {cs : List Char} (h : c.isAlpha = true)
    (hcs : IsWord cs) : IsWord (c :: cs) := by
  refine List.forall_mem_cons.2 ⟨?_, hcs⟩
  rw [Char.isAlphanum, h, Bool.true_or, Bool.true_or]

theorem isWord_snakeChars {cs : List Char} (h : IsWord cs) (before : Option Char) :
    IsWord (snakeChars before cs) := by
  induction cs generalizing before with
  | nil => exact nofun
  | cons c cs ih =>
    obtain ⟨hc, hcs⟩ := List.forall_mem_cons.1 h
    by_cases hupper : c.isUpper = true
    · have halpha : c.toLower.isAlpha = true := by
        rw [Char.isAlpha_toLower_eq_isAlpha, Char.isAlpha, hupper, Bool.true_or]
      have hlower : IsWord (c.toLower :: snakeChars (some c) cs) :=
        isWord_cons_of_isAlpha halpha (ih hcs (some c))
      rw [snakeChars.eq_def]
      simp only [hupper, if_true]
      split
      · exact hlower
      · split
        · exact hlower
        · exact List.forall_mem_cons.2 ⟨rfl, hlower⟩
    · rw [snakeChars_cons (Bool.eq_false_of_not_eq_true hupper)]
      exact List.forall_mem_cons.2 ⟨hc, ih hcs (some c)⟩

theorem isWord_camelChars {cs : List Char} (h : IsWord cs) (begun : Bool) :
    IsWord (camelChars begun cs) := by
  fun_induction camelChars begun cs with
  | case1 => exact nofun
  | case2 begun c cs hjoined ih =>
    obtain ⟨-, hc⟩ := (Bool.and_eq_true ..).mp hjoined
    refine isWord_cons_of_isAlpha ?_ (ih fun d hd => h d (by simp [hd]))
    rw [Char.isAlpha_toUpper_eq_isAlpha, Char.isAlpha, hc, Bool.or_true]
  | case3 begun c cs hkept ih =>
    exact List.forall_mem_cons.2 ⟨rfl, ih fun d hd => h d (List.mem_cons_of_mem _ hd)⟩
  | case4 begun c cs hlast ih =>
    obtain ⟨hc, hcs⟩ := List.forall_mem_cons.1 h
    exact List.forall_mem_cons.2 ⟨hc, ih hcs⟩

section

variable {us cs : List Char} {c : Char} (hus : ∀ u ∈ us, u = '_') (hc : c.isLower = true)
include hus hc

/-- An identifier in snake case. -/
theorem snakeChars_shape :
    snakeChars none (us ++ c :: cs) = us ++ c :: snakeChars (some c) cs := by
  have hupper : c.isUpper = false :=
    Bool.eq_false_of_not_eq_true (Char.not_isUpper_of_isLower hc)
  rw [snakeChars_none, snakeChars_underscores hus, snakeChars_cons hupper]

/-- An identifier in camel case. -/
theorem camelChars_shape : camelChars false (us ++ c :: cs) = us ++ c :: camelChars true cs := by
  rw [camelChars_underscores hus, camelChars_cons (ne_underscore_of_isLower hc)]

end

/-- Underscores alone stay. -/
theorem KeyCase.apply_underscores (case : KeyCase) {key : String}
    (h : ∀ c ∈ key.toList, c = '_') : case.apply key = key := by
  have hsnake := snakeChars_underscores h []
  have hcamel := camelChars_underscores h []
  rw [List.append_nil] at hsnake hcamel
  cases case with
  | snake =>
    show String.ofList (snakeChars none key.toList) = key
    rw [snakeChars_none, hsnake, snakeChars, List.append_nil, String.ofList_toList]
  | camel =>
    show String.ofList (camelChars false key.toList) = key
    rw [hcamel, camelChars, List.append_nil, String.ofList_toList]

/-- **What may be re-cased may be re-cased again.** -/
theorem isIdentifier_apply (case : KeyCase) {key : String} (h : isIdentifier key = true) :
    isIdentifier (case.apply key) = true := by
  rcases shape_of_isIdentifier h with hall | ⟨us, c, cs, hkey, hus, -, hc, hcs⟩
  · rw [case.apply_underscores hall]
    exact h
  · unfold isIdentifier
    cases case with
    | snake =>
      show isIdentifierChars (String.ofList (snakeChars none key.toList)).toList = true
      rw [String.toList_ofList, hkey, snakeChars_shape hus hc]
      exact isIdentifierChars_append hus hc (isWord_snakeChars hcs _)
    | camel =>
      show isIdentifierChars (String.ofList (camelChars false key.toList)).toList = true
      rw [String.toList_ofList, hkey, camelChars_shape hus hc]
      exact isIdentifierChars_append hus hc (isWord_camelChars hcs _)

/-- **From camel case to snake case and back.** -/
theorem toCamel_toSnake {key : String} (hkey : isIdentifier key = true)
    (h : CamelCanonical key) : toCamel (toSnake key) = key := by
  rcases shape_of_isIdentifier hkey with hall | ⟨us, c, cs, hshape, hus, hstem, hc, -⟩
  · have hsnake : toSnake key = key := KeyCase.apply_underscores .snake hall
    rw [hsnake]
    exact KeyCase.apply_underscores .camel hall
  · have hinner : camelChars true (snakeChars (some c) cs) = cs :=
      camelChars_snakeChars fun d hd => h d (hstem ▸ hd)
    unfold toCamel toSnake
    rw [String.toList_ofList, hshape, snakeChars_shape hus hc, camelChars_shape hus hc, hinner,
      ← hshape, String.ofList_toList]

/-- **From snake case to camel case and back.** -/
theorem toSnake_toCamel {key : String} (hkey : isIdentifier key = true)
    (h : SnakeCanonical key) : toSnake (toCamel key) = key := by
  obtain ⟨hupper, hdoubled⟩ := h
  rcases shape_of_isIdentifier hkey with hall | ⟨us, c, cs, hshape, hus, hstem, hc, -⟩
  · have hcamel : toCamel key = key := KeyCase.apply_underscores .camel hall
    rw [hcamel]
    exact KeyCase.apply_underscores .snake hall
  · have hinner : snakeChars (some c) (camelChars true cs) = cs := by
      rw [hshape] at hupper
      refine snakeChars_camelChars (fun d hd => hupper d (by simp [hd]))
        (fun heq => absurd heq (ne_underscore_of_isLower hc)) fun d hd => ?_
      refine Bool.eq_false_of_not_eq_true fun hlower => hdoubled '_' d ?_ hlower rfl
      rw [hstem]
      exact List.infix_cons hd
    unfold toCamel toSnake
    rw [String.toList_ofList, hshape, camelChars_shape hus hc, snakeChars_shape hus hc, hinner,
      ← hshape, String.ofList_toList]

end LiveSync.Payload
