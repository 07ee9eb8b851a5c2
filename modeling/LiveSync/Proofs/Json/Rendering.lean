import LiveSync.Json.Parser
import LiveSync.Proofs.Json.Numerals

/-!
# The text of a value tells it apart

A string that is written between its quotes is read back, whatever follows; a number ends where a
character comes that no number has.  So a value can be found at the front of a text, and two values
with the same text are the same, field by field and bit by bit.

* `readString_stringChars` — a string is read back.
* `Ends` — what may follow a value.
* `chars_inj` — a value is found at the front of a text.
* `Value.render_injective` — different values have different texts.
-/

namespace LiveSync.Json

/-! ## Strings -/

theorem hexValue?_hexDigit : ∀ n < 16, hexValue? (hexDigit n) = some n := by decide

/-- A character that is written as two. -/
theorem readStringTail_simple {c d : Char} (h : simpleEscape? c = some d) (hu : c ≠ 'u')
    (done cs : List Char) :
    readStringTail done ('\\' :: c :: cs) = readStringTail (d :: done) cs := by
  rw [readStringTail.eq_def]
  simp [hu, h]

/-- A character that is written as its number. -/
theorem readStringTail_number {a b c d : Char} {n : Nat} (h : hexWord? a b c d = some n)
    (hn : n < 0xD800) (done cs : List Char) :
    readStringTail done ('\\' :: 'u' :: a :: b :: c :: d :: cs) =
      readStringTail (Char.ofNat n :: done) cs := by
  rw [readStringTail.eq_def]
  simp [h, hn]

theorem hexWord?_hexDigit {n : Nat} (h : n < 32) :
    hexWord? '0' '0' (hexDigit (n / 16)) (hexDigit (n % 16)) = some n := by
  have hhigh := hexValue?_hexDigit (n / 16) (by omega)
  have hlow := hexValue?_hexDigit (n % 16) (by omega)
  have hzero : hexValue? '0' = some 0 := rfl
  simp only [hexWord?, hhigh, hlow, hzero, Option.bind_eq_bind, Option.bind_some]
  exact congrArg some (by omega)

/-- A character is read as it was written. -/
theorem readStringTail_escapeChar (done : List Char) (c : Char) (cs : List Char) :
    readStringTail done (escapeChar c ++ cs) = readStringTail (c :: done) cs := by
  unfold escapeChar
  split
  · subst c
    exact readStringTail_simple rfl (by decide) done cs
  split
  · subst c
    exact readStringTail_simple rfl (by decide) done cs
  split
  · rename_i hquote hbackslash hprinting
    rw [List.singleton_append, readStringTail.eq_def]
    split <;> simp_all
  split
  · subst c
    exact readStringTail_simple rfl (by decide) done cs
  split
  · subst c
    exact readStringTail_simple rfl (by decide) done cs
  split
  · subst c
    exact readStringTail_simple rfl (by decide) done cs
  split
  · subst c
    exact readStringTail_simple rfl (by decide) done cs
  split
  · subst c
    exact readStringTail_simple rfl (by decide) done cs
  · have hword := hexWord?_hexDigit (n := c.toNat) (by omega)
    have hread := readStringTail_number hword (by omega) done cs
    rwa [Char.ofNat_toNat] at hread

theorem readStringTail_flatMap (done l cs : List Char) :
    readStringTail done (l.flatMap escapeChar ++ '"' :: cs) =
      some (String.ofList (done.reverse ++ l), cs) := by
  induction l generalizing done with
  | nil => simp [readStringTail]
  | cons c l ih =>
    rw [List.flatMap_cons, List.append_assoc, readStringTail_escapeChar, ih, List.reverse_cons,
      List.append_assoc, List.singleton_append]

/-- **A string is read back** from between its quotes. -/
theorem readString_stringChars (s : String) (cs : List Char) :
    readString (stringChars s ++ cs) = some (s, cs) := by
  have htail := readStringTail_flatMap [] s.toList cs
  simpa [stringChars, readString] using htail

theorem stringChars_inj {s t : String} {cs ds : List Char}
    (h : stringChars s ++ cs = stringChars t ++ ds) : s = t ∧ cs = ds := by
  have hread := readString_stringChars s cs
  rw [h, readString_stringChars] at hread
  exact ⟨(congrArg Prod.fst (Option.some.inj hread)).symm,
    (congrArg Prod.snd (Option.some.inj hread)).symm⟩

/-! ## Values -/

/-- What may follow a value: nothing, or a character that closes or goes on. -/
def Ends (cs : List Char) : Prop :=
  ∀ c ∈ cs.head?, c = ',' ∨ c = ']' ∨ c = '\x7d'

theorem ends_nil : Ends [] := nofun

theorem ends_cons {c : Char} (h : c = ',' ∨ c = ']' ∨ c = '\x7d') (cs : List Char) :
    Ends (c :: cs) := by
  rintro d ⟨⟩
  exact h

theorem numberChars_inj {a b : Number} {cs ds : List Char} (hc : Ends cs) (hd : Ends ds)
    (h : numberChars a ++ cs = numberChars b ++ ds) : a = b ∧ cs = ds := by
  have hends : ∀ {cs : List Char}, Ends cs → cs.takeWhile isNumberChar = [] := by
    intro cs hc
    cases cs with
    | nil => rfl
    | cons c cs =>
      refine List.takeWhile_cons_of_neg ?_
      rcases hc c rfl with rfl | rfl | rfl <;> decide
  have htext : ∀ (n : Number) {cs : List Char}, Ends cs →
      (numberChars n ++ cs).takeWhile isNumberChar = numberChars n := by
    intro n cs hc
    rw [List.takeWhile_append_of_pos (isNumberChar_numberChars n), hends hc, List.append_nil]
  have hnumber : numberChars a = numberChars b := by rw [← htext a hc, h, htext b hd]
  rw [hnumber] at h
  exact ⟨numberChars_injective hnumber, List.append_cancel_left h⟩

/-- The kinds of values. -/
inductive Kind where
  | null
  | bool (b : Bool)
  | number
  | string
  | array
  | object
  deriving DecidableEq

/-- The kind of a value. -/
def Value.kind : Value → Kind
  | .null => .null
  | .bool b => .bool b
  | .number _ => .number
  | .string _ => .string
  | .array _ => .array
  | .object _ => .object

/-- The kind of a value that begins with a character. -/
def kindOf? (c : Char) : Option Kind :=
  if c = 'n' then some .null
  else if c = 't' then some (.bool true)
  else if c = 'f' then some (.bool false)
  else if c = '"' then some .string
  else if c = '[' then some .array
  else if c = '\x7b' then some .object
  else if c.isDigit || c = '-' then some .number
  else none

theorem kindOf?_digit {c : Char} (h : c.isDigit = true) : kindOf? c = some .number := by
  have hne : ∀ d : Char, d.isDigit = false → c ≠ d := by
    rintro d hd rfl
    exact absurd h (by rw [hd]; exact Bool.false_ne_true)
  unfold kindOf?
  simp [hne, h]

theorem kindOf?_numberChars (n : Number) :
    ∃ c cs, numberChars n = c :: cs ∧ kindOf? c = some .number := by
  have hsigned : ∀ {p : Prop} [Decidable p] {cs : List Char},
      (∃ c rest, cs = c :: rest ∧ c.isDigit = true) →
      ∃ c rest, (if p then '-' :: cs else cs) = c :: rest ∧ kindOf? c = some .number := by
    rintro p _ cs ⟨c, rest, rfl, hc⟩
    split
    · exact ⟨_, _, rfl, rfl⟩
    · exact ⟨c, rest, rfl, kindOf?_digit hc⟩
  cases n with
  | integer n _ => exact hsigned (head_natChars n.natAbs)
  | double d => exact hsigned (head_decimalChars _)

/-- A value begins with a character of its kind. -/
theorem kindOf?_chars (v : Value) : ∃ c cs, v.chars = c :: cs ∧ kindOf? c = some v.kind := by
  cases v with
  | null => exact ⟨_, _, rfl, rfl⟩
  | bool b => cases b <;> exact ⟨_, _, rfl, rfl⟩
  | number n => exact kindOf?_numberChars n
  | string s => exact ⟨_, _, rfl, rfl⟩
  | array items => exact ⟨_, _, rfl, rfl⟩
  | object fields => exact ⟨_, _, rfl, rfl⟩

theorem kind_eq {v w : Value} {cs ds : List Char} (h : v.chars ++ cs = w.chars ++ ds) :
    v.kind = w.kind := by
  obtain ⟨c, crest, hv, hc⟩ := kindOf?_chars v
  obtain ⟨d, drest, hw, hd⟩ := kindOf?_chars w
  rw [hv, hw] at h
  obtain rfl := (List.cons.inj h).1
  exact Option.some.inj (hc.symm.trans hd)

/-- What follows the first of the items or fields, given the text of the other ones and the
character that closes them all. -/
def afterFirst (close : Char) (others cs : List Char) : List Char :=
  if others = [] then close :: cs else ',' :: (others ++ close :: cs)

section

variable {close : Char} (hclose : close = ']' ∨ close = '\x7d')
include hclose

theorem ends_afterFirst (others cs : List Char) : Ends (afterFirst close others cs) := by
  unfold afterFirst
  split
  · exact ends_cons (Or.inr hclose) _
  · exact ends_cons (Or.inl rfl) _

theorem afterFirst_inj {others others' cs ds : List Char}
    (h : afterFirst close others cs = afterFirst close others' ds) :
    others ++ close :: cs = others' ++ close :: ds := by
  have hne : close ≠ ',' := by rcases hclose with rfl | rfl <;> decide
  unfold afterFirst at h
  split at h <;> split at h
  · rename_i hnil hnil'
    rw [hnil, hnil']
    exact h
  · exact absurd (List.cons.inj h).1 hne
  · exact absurd (List.cons.inj h).1.symm hne
  · exact (List.cons.inj h).2

end

theorem itemChars_ne_nil (v : Value) (rest : List Value) : Value.itemChars (v :: rest) ≠ [] := by
  obtain ⟨c, others, hv, -⟩ := kindOf?_chars v
  cases rest <;> simp [Value.itemChars, hv]

theorem fieldChars_ne_nil (f : String × Value) (rest : List (String × Value)) :
    Value.fieldChars (f :: rest) ≠ [] := by
  cases rest <;> simp [Value.fieldChars, stringChars]

theorem itemChars_cons (v : Value) (rest : List Value) (cs : List Char) :
    Value.itemChars (v :: rest) ++ ']' :: cs =
      v.chars ++ afterFirst ']' (Value.itemChars rest) cs := by
  cases rest with
  | nil => rfl
  | cons w rest =>
    rw [afterFirst, if_neg (itemChars_ne_nil w rest)]
    simp [Value.itemChars]

theorem fieldChars_cons (k : String) (v : Value) (rest : List (String × Value)) (cs : List Char) :
    Value.fieldChars ((k, v) :: rest) ++ '\x7d' :: cs =
      stringChars k ++ ':' :: (v.chars ++ afterFirst '\x7d' (Value.fieldChars rest) cs) := by
  cases rest with
  | nil => simp [Value.fieldChars, afterFirst]
  | cons f rest =>
    rw [afterFirst, if_neg (fieldChars_ne_nil f rest)]
    simp [Value.fieldChars]

/-- A value does not begin with a bracket that closes. -/
theorem chars_ne_bracket (v : Value) (cs ds : List Char) : v.chars ++ cs ≠ ']' :: ds := by
  obtain ⟨c, rest, hv, hc⟩ := kindOf?_chars v
  intro h
  rw [hv] at h
  obtain rfl := (List.cons.inj h).1
  exact absurd hc nofun

mutual

/-- **A value is found at the front of a text.** -/
theorem Value.chars_inj (v w : Value) {cs ds : List Char} (hc : Ends cs) (hd : Ends ds)
    (h : v.chars ++ cs = w.chars ++ ds) : v = w ∧ cs = ds := by
  have hkind := kind_eq h
  -- values of different kinds begin differently
  cases v <;> cases w <;> dsimp only [Value.kind] at hkind <;> try contradiction
  case null.null => exact ⟨rfl, List.append_cancel_left h⟩
  case bool.bool a b =>
    obtain rfl := Kind.bool.inj hkind
    exact ⟨rfl, List.append_cancel_left h⟩
  case number.number a b =>
    obtain ⟨rfl, hrest⟩ := numberChars_inj hc hd h
    exact ⟨rfl, hrest⟩
  case string.string s t =>
    obtain ⟨rfl, hrest⟩ := stringChars_inj h
    exact ⟨rfl, hrest⟩
  case array.array vs ws =>
    have hitems : Value.itemChars vs ++ ']' :: cs = Value.itemChars ws ++ ']' :: ds := by
      simpa [Value.chars] using h
    obtain ⟨rfl, hrest⟩ := Value.itemChars_inj vs ws hitems
    exact ⟨rfl, hrest⟩
  case object.object fs gs =>
    have hfields : Value.fieldChars fs ++ '\x7d' :: cs = Value.fieldChars gs ++ '\x7d' :: ds := by
      simpa [Value.chars] using h
    obtain ⟨rfl, hrest⟩ := Value.fieldChars_inj fs gs hfields
    exact ⟨rfl, hrest⟩

/-- The items of an array are found up to its bracket. -/
theorem Value.itemChars_inj (vs ws : List Value) {cs ds : List Char}
    (h : Value.itemChars vs ++ ']' :: cs = Value.itemChars ws ++ ']' :: ds) :
    vs = ws ∧ cs = ds := by
  match vs, ws with
  | [], [] => exact ⟨rfl, (List.cons.inj h).2⟩
  | [], w :: ws =>
    rw [itemChars_cons] at h
    exact absurd h.symm (chars_ne_bracket w _ _)
  | v :: vs, [] =>
    rw [itemChars_cons] at h
    exact absurd h (chars_ne_bracket v _ _)
  | v :: vs, w :: ws =>
    have hclose : ']' = ']' ∨ ']' = '\x7d' := Or.inl rfl
    rw [itemChars_cons, itemChars_cons] at h
    obtain ⟨rfl, hafter⟩ :=
      Value.chars_inj v w (ends_afterFirst hclose _ _) (ends_afterFirst hclose _ _) h
    obtain ⟨rfl, hrest⟩ := Value.itemChars_inj vs ws (afterFirst_inj hclose hafter)
    exact ⟨rfl, hrest⟩

/-- The fields of an object are found up to its brace. -/
theorem Value.fieldChars_inj (fs gs : List (String × Value)) {cs ds : List Char}
    (h : Value.fieldChars fs ++ '\x7d' :: cs = Value.fieldChars gs ++ '\x7d' :: ds) :
    fs = gs ∧ cs = ds := by
  match fs, gs with
  | [], [] => exact ⟨rfl, (List.cons.inj h).2⟩
  | [], (l, w) :: gs =>
    rw [fieldChars_cons] at h
    exact absurd (List.cons.inj h).1 (by decide)
  | (k, v) :: fs, [] =>
    rw [fieldChars_cons] at h
    exact absurd (List.cons.inj h).1 (by decide)
  | (k, v) :: fs, (l, w) :: gs =>
    have hclose : '\x7d' = ']' ∨ '\x7d' = '\x7d' := Or.inr rfl
    rw [fieldChars_cons, fieldChars_cons] at h
    obtain ⟨rfl, hvalue⟩ := stringChars_inj h
    obtain ⟨rfl, hafter⟩ := Value.chars_inj v w (ends_afterFirst hclose _ _)
      (ends_afterFirst hclose _ _) (List.cons.inj hvalue).2
    obtain ⟨rfl, hrest⟩ := Value.fieldChars_inj fs gs (afterFirst_inj hclose hafter)
    exact ⟨rfl, hrest⟩

end

/-- **Different values have different texts.** -/
theorem Value.render_injective {v w : Value} (h : v.render = w.render) : v = w := by
  have hchars : v.chars ++ [] = w.chars ++ [] := by
    rw [List.append_nil, List.append_nil]
    exact String.ofList_injective h
  exact (Value.chars_inj v w ends_nil ends_nil hchars).1

end LiveSync.Json
