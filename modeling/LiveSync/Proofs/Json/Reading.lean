import LiveSync.Proofs.Json.Rendering
import LiveSync.Proofs.Json.Values
import Mathlib.Data.List.TakeDrop

/-!
# What is written is read back

The reader takes the text of a value off the front of any text in which the value ends there.  An
integer is read digit by digit and fits 64 bits all the way; the fields of an object are stored in
the order in which they are written; each array and each object costs one level of depth.

* `accumulate_natChars`, `readNumber_intChars` — integers.
* `Reads` — a reader takes the text of a value for the value.
* `readItems_itemChars`, `readPairs_fieldChars` — items and fields, one after the other.
* `reads_array`, `read_object` — arrays, and objects whose fields are in any order.
* `reads_value` — every value without doubles that is not too deep.
* `parse?_render` — the text of such a value is read as the value.
* `ordered_of_parse?` — whatever is read has its fields in order.
-/

namespace LiveSync.Json

/-! ## Integers -/

theorem le_ofDigitChars (cs : List Char) (n : Nat) : n ≤ Nat.ofDigitChars 10 cs n := by
  rw [Nat.ofDigitChars_eq_ofDigitChars_zero]
  calc n ≤ 10 ^ cs.length * n := Nat.le_mul_of_pos_left n (Nat.pow_pos (by decide))
    _ ≤ 10 ^ cs.length * n + Nat.ofDigitChars 10 cs 0 := Nat.le_add_right ..

/-- Digits whose number fits are all taken. -/
theorem accumulate_eq {cs : List Char} {n : Nat} (h : Nat.ofDigitChars 10 cs n ≤ maxSignificand) :
    accumulate n cs = (Nat.ofDigitChars 10 cs n, []) := by
  induction cs generalizing n with
  | nil => rfl
  | cons c cs ih =>
    have hstep : Nat.ofDigitChars 10 (c :: cs) n =
        Nat.ofDigitChars 10 cs (n * 10 + digitValue c) := by
      rw [Nat.ofDigitChars_cons, Nat.mul_comm]
      rfl
    rw [hstep] at h ⊢
    unfold accumulate
    rw [if_pos (Nat.le_trans (le_ofDigitChars cs _) h), ih h]

theorem accumulate_natChars {n : Nat} (h : n ≤ maxSignificand) :
    accumulate 0 (natChars n) = (n, []) := by
  rw [accumulate_eq (by rwa [ofDigitChars_natChars]), ofDigitChars_natChars]

/-- Only the number zero begins with a zero. -/
theorem eq_zero_of_head_natChars {n : Nat} (h : (natChars n).head? = some '0') : n = 0 := by
  induction n using Nat.strongRecOn with
  | ind n ih =>
    by_cases hn : n < 10
    · rw [natChars, Nat.toDigits_of_lt_base hn] at h
      exact Nat.digitChar_eq_zero.1 (Option.some.inj h)
    · have hsplit : natChars n = natChars (n / 10) ++ [(n % 10).digitChar] :=
        Nat.toDigits_of_base_le (by decide) (by omega)
      obtain ⟨c, cs, hcs, -⟩ := head_natChars (n / 10)
      rw [hsplit, hcs] at h
      have hzero : n / 10 = 0 := ih (n / 10) (by omega) (by rw [hcs]; exact h)
      omega

theorem readDigits_natChars (n : Nat) {cs : List Char} (h : EndsDigits cs) :
    readDigits (natChars n ++ cs) = some (natChars n, cs) := by
  have hspan : (natChars n ++ cs).span Char.isDigit = (natChars n, cs) := by
    have hdigits := takeWhile_digits (allDigits_natChars n) h
    rw [List.span_eq_takeWhile_dropWhile, hdigits.1, hdigits.2]
  unfold readDigits
  rw [hspan]
  split
  · rename_i heq
    have hnil : natChars n = [] := congrArg Prod.fst heq
    exact absurd hnil (List.ne_nil_of_length_pos (length_natChars_pos n))
  · -- a zero in front is the whole number
    rename_i heq
    have hchars : natChars n = '0' :: _ :: _ := congrArg Prod.fst heq
    have hzero : n = 0 := eq_zero_of_head_natChars (by rw [hchars]; rfl)
    rw [hzero] at hchars
    exact absurd (List.cons.inj hchars).2 nofun
  · rename_i heq
    rw [← heq]

theorem endsDigits_of_ends {cs : List Char} (h : Ends cs) : EndsDigits cs := by
  intro c hc
  rcases h c hc with rfl | rfl | rfl <;> rfl

theorem readUnsigned_natChars (negative : Bool) {n : Nat} (hn : n ≤ maxSignificand)
    {cs : List Char} (h : Ends cs) :
    readUnsigned negative (natChars n ++ cs) = (integer? negative n).map (·, cs) := by
  unfold readUnsigned
  rw [readDigits_natChars n (endsDigits_of_ends h)]
  simp only [Option.bind_eq_bind, Option.bind_some, accumulate_natChars hn]
  cases cs with
  | nil => cases integer? negative n <;> rfl
  | cons c cs =>
    rcases h c rfl with rfl | rfl | rfl <;> cases integer? negative n <;> rfl

/-- **An integer is read back.** -/
theorem readNumber_intChars {n : Int}
    (hn : -0x8000000000000000 ≤ n ∧ n < 0x10000000000000000) {cs : List Char} (h : Ends cs) :
    readNumber (intChars n ++ cs) = some (.integer n hn, cs) := by
  have hfits : n.natAbs ≤ maxSignificand := by
    unfold maxSignificand
    omega
  unfold intChars
  by_cases hneg : n < 0
  · have habs : -(n.natAbs : Int) = n := by omega
    have hinteger : integer? true n.natAbs = some (.integer n hn) := by
      unfold integer? Number.ofInt?
      rw [if_pos rfl, if_neg (by omega), habs, dif_pos hn]
      rfl
    have hunsigned := readUnsigned_natChars true hfits h
    rw [if_pos hneg]
    exact hunsigned.trans (congrArg (Option.map (·, cs)) hinteger)
  · have habs : (n.natAbs : Int) = n := by omega
    have hinteger : integer? false n.natAbs = some (.integer n hn) := by
      unfold integer? Number.ofInt?
      rw [if_neg Bool.false_ne_true, habs, dif_pos hn]
    have hunsigned : readNumber (natChars n.natAbs ++ cs) =
        readUnsigned false (natChars n.natAbs ++ cs) := by
      obtain ⟨c, ds, hcs, hc⟩ := head_natChars n.natAbs
      rw [hcs]
      unfold readNumber
      split
      · rename_i heq
        obtain rfl := (List.cons.inj heq).1
        exact absurd hc (by decide)
      · rfl
    rw [if_neg hneg, hunsigned, readUnsigned_natChars false hfits h, hinteger, Option.map_some]

/-! ## The first character -/

/-- No blank stands in front of a value. -/
theorem skipBlanks_chars (v : Value) (cs : List Char) :
    skipBlanks (v.chars ++ cs) = v.chars ++ cs := by
  obtain ⟨c, rest, hv, hc⟩ := kindOf?_chars v
  have hblank : isBlank c = false := by
    refine Bool.eq_false_of_not_eq_true fun hblank => ?_
    have hcases : c = ' ' ∨ c = '\t' ∨ c = '\n' ∨ c = '\r' := by
      simpa [isBlank, or_assoc] using hblank
    rcases hcases with rfl | rfl | rfl | rfl <;> exact absurd hc nofun
  rw [hv]
  exact List.dropWhile_cons_of_neg (by rw [hblank]; exact Bool.false_ne_true)

/-- A scalar is read as such, at whatever depth. -/
theorem readValue_scalar (v : Value) (harray : v.kind ≠ .array) (hobject : v.kind ≠ .object)
    (fuel depth : Nat) (cs : List Char) :
    readValue fuel depth (v.chars ++ cs) = readScalar (v.chars ++ cs) := by
  obtain ⟨c, rest, hv, hc⟩ := kindOf?_chars v
  rw [hv, List.cons_append]
  have hbracket : c ≠ '[' := by
    rintro rfl
    exact harray (Option.some.inj hc).symm
  have hbrace : c ≠ '\x7b' := by
    rintro rfl
    exact hobject (Option.some.inj hc).symm
  cases depth with
  | zero => simp [readValue, hbracket, hbrace]
  | succ depth => simp [readValue, hbracket, hbrace]

theorem readScalar_number (n : Number) (cs : List Char) :
    readScalar (numberChars n ++ cs) =
      (readNumber (numberChars n ++ cs)).map fun (m, rest) => (Value.number m, rest) := by
  obtain ⟨c, rest, hn, hc⟩ := kindOf?_numberChars n
  rw [hn, List.cons_append]
  unfold readScalar
  split
  case h_5 => rfl
  all_goals
    rename_i heq
    obtain rfl := (List.cons.inj heq).1
    exact absurd hc nofun

/-! ## Items and fields -/

/-- The reader takes the text of the value for the value. -/
def Reads (item : Reader Value) (v : Value) : Prop :=
  ∀ cs, Ends cs → item (v.chars ++ cs) = some (v, cs)

section

variable {item : Reader Value}

/-- **Items are read one after the other**, up to the bracket. -/
theorem readItems_itemChars {items : List Value} (hitems : ∀ v ∈ items, Reads item v)
    (hne : items ≠ []) {fuel : Nat} (hfuel : items.length ≤ fuel) (done : List Value)
    (cs : List Char) :
    readItems item fuel done (Value.itemChars items ++ ']' :: cs) =
      some (done.reverse ++ items, cs) := by
  induction items generalizing fuel done with
  | nil => exact absurd rfl hne
  | cons v rest ih =>
    obtain ⟨fuel, rfl⟩ : ∃ f, fuel = f + 1 := ⟨fuel - 1, by rw [List.length_cons] at hfuel; omega⟩
    obtain ⟨hv, hrest⟩ := List.forall_mem_cons.1 hitems
    have hread := hv _ (ends_afterFirst (Or.inl rfl) (Value.itemChars rest) cs)
    rw [itemChars_cons]
    unfold readItems
    rw [skipBlanks_chars, hread]
    cases rest with
    | nil =>
      show some ((v :: done).reverse, cs) = _
      rw [List.reverse_cons]
    | cons w rest =>
      rw [afterFirst, if_neg (itemChars_ne_nil w rest)]
      show readItems item fuel (v :: done) _ = _
      have hlater := ih hrest (List.cons_ne_nil _ _) (Nat.le_of_succ_le_succ hfuel)
      rw [hlater, List.reverse_cons, List.append_assoc, List.singleton_append]

/-- **Fields are read one after the other**, up to the brace. -/
theorem readPairs_fieldChars {fields : List (String × Value)}
    (hfields : ∀ f ∈ fields, Reads item f.2) (hne : fields ≠ []) {fuel : Nat}
    (hfuel : fields.length ≤ fuel) (done : List (String × Value)) (cs : List Char) :
    readPairs item fuel done (Value.fieldChars fields ++ '\x7d' :: cs) =
      some (done.reverse ++ fields, cs) := by
  induction fields generalizing fuel done with
  | nil => exact absurd rfl hne
  | cons f rest ih =>
    obtain ⟨key, v⟩ := f
    obtain ⟨fuel, rfl⟩ : ∃ f, fuel = f + 1 := ⟨fuel - 1, by rw [List.length_cons] at hfuel; omega⟩
    obtain ⟨hv, hrest⟩ := List.forall_mem_cons.1 hfields
    have hread := hv _ (ends_afterFirst (Or.inr rfl) (Value.fieldChars rest) cs)
    have hkey : ∀ ds, skipBlanks (stringChars key ++ ds) = stringChars key ++ ds := fun _ => rfl
    have hcolon : ∀ ds, skipBlanks (':' :: ds) = ':' :: ds := fun _ => rfl
    rw [fieldChars_cons]
    unfold readPairs
    rw [hkey, readString_stringChars]
    simp only [hcolon, skipBlanks_chars, hread]
    cases rest with
    | nil =>
      show some (((key, v) :: done).reverse, cs) = _
      rw [List.reverse_cons]
    | cons g rest =>
      rw [afterFirst, if_neg (fieldChars_ne_nil g rest)]
      show readPairs item fuel ((key, v) :: done) _ = _
      have hlater := ih hrest (List.cons_ne_nil _ _) (Nat.le_of_succ_le_succ hfuel)
      rw [hlater, List.reverse_cons, List.append_assoc, List.singleton_append]

end

/-! ## Arrays and objects -/

section

variable {fuel depth : Nat}

/-- **An array is read back** if its items are. -/
theorem reads_array {items : List Value} (hitems : ∀ v ∈ items, Reads (readValue fuel depth) v)
    (hfuel : items.length ≤ fuel) : Reads (readValue fuel (depth + 1)) (.array items) := by
  intro cs _
  cases items with
  | nil => rfl
  | cons v rest =>
    have hread := readItems_itemChars hitems nofun hfuel [] cs
    have htext : Value.chars (.array (v :: rest)) ++ cs =
        '[' :: (Value.itemChars (v :: rest) ++ ']' :: cs) := by
      simp [Value.chars]
    have hskip : skipBlanks (Value.itemChars (v :: rest) ++ ']' :: cs) =
        Value.itemChars (v :: rest) ++ ']' :: cs := by
      rw [itemChars_cons, skipBlanks_chars]
    rw [htext, readValue, hskip]
    split
    · rename_i heq
      rw [itemChars_cons] at heq
      exact absurd heq (chars_ne_bracket v _ _)
    · rw [hread, Option.map_some]
      rfl

/-- **An object is read back** if its values are; its fields are stored one after the other. -/
theorem read_object {fields : List (String × Value)}
    (hfields : ∀ f ∈ fields, Reads (readValue fuel depth) f.2) (hfuel : fields.length ≤ fuel)
    (cs : List Char) :
    readValue fuel (depth + 1) (Value.chars (.object fields) ++ cs) =
      some (.object (Fields.ofList fields), cs) := by
  have htext : Value.chars (.object fields) ++ cs =
      '\x7b' :: (Value.fieldChars fields ++ '\x7d' :: cs) := by
    simp [Value.chars]
  have hobject : readObject (readValue fuel depth) fuel (Value.fieldChars fields ++ '\x7d' :: cs) =
      some (fields, cs) := by
    cases fields with
    | nil => rfl
    | cons f rest =>
      have hread := readPairs_fieldChars hfields nofun hfuel [] cs
      obtain ⟨ds, hds⟩ : ∃ ds, Value.fieldChars (f :: rest) ++ '\x7d' :: cs = '"' :: ds :=
        ⟨_, by rw [fieldChars_cons]; rfl⟩
      rw [hds] at hread ⊢
      exact hread
  rw [htext, readValue, hobject, Option.map_some]

end

/-! ## Room for the items -/

theorem length_chars_pos (v : Value) : 0 < v.chars.length := by
  obtain ⟨c, rest, hv, -⟩ := kindOf?_chars v
  rw [hv]
  exact Nat.succ_pos _

/-- An array has no more items than its text has characters, and none of them is longer. -/
theorem length_itemChars (items : List Value) :
    items.length ≤ (Value.itemChars items).length ∧
      ∀ v ∈ items, v.chars.length ≤ (Value.itemChars items).length := by
  induction items with
  | nil => exact ⟨Nat.le_refl _, nofun⟩
  | cons v rest ih =>
    have hcons : v.chars.length + (Value.itemChars rest).length ≤
        (Value.itemChars (v :: rest)).length := by
      cases rest with
      | nil => exact Nat.le_refl _
      | cons w rest =>
        simp only [Value.itemChars, List.length_append, List.length_cons]
        omega
    have hpos := length_chars_pos v
    refine ⟨?_, List.forall_mem_cons.2 ⟨?_, fun u hu => ?_⟩⟩
    · rw [List.length_cons]
      omega
    · omega
    · have := ih.2 u hu
      omega

/-- An object has no more fields than its text has characters, and none of the values is longer. -/
theorem length_fieldChars (fields : List (String × Value)) :
    fields.length ≤ (Value.fieldChars fields).length ∧
      ∀ f ∈ fields, f.2.chars.length ≤ (Value.fieldChars fields).length := by
  induction fields with
  | nil => exact ⟨Nat.le_refl _, nofun⟩
  | cons f rest ih =>
    obtain ⟨key, v⟩ := f
    have hcons : v.chars.length + (Value.fieldChars rest).length + 1 ≤
        (Value.fieldChars ((key, v) :: rest)).length := by
      cases rest with
      | nil =>
        simp only [Value.fieldChars, List.length_append, List.length_cons, List.length_nil]
        omega
      | cons g rest =>
        simp only [Value.fieldChars, List.length_append, List.length_cons]
        omega
    refine ⟨?_, List.forall_mem_cons.2 ⟨?_, fun g hg => ?_⟩⟩
    · rw [List.length_cons]
      omega
    · show v.chars.length ≤ _
      omega
    · have := ih.2 g hg
      omega

/-! ## Every value -/

/-- **Every value is read back** that has no doubles, fields in order and no more depth than there
is. -/
theorem reads_value {v : Value} (hordered : v.Ordered) (hdoubles : v.WithoutDoubles)
    {fuel depth : Nat} (hdepth : v.depth ≤ depth) (hfuel : v.chars.length ≤ fuel) :
    Reads (readValue fuel depth) v := by
  induction v using Value.induction generalizing depth with
  | null =>
    intro cs _
    rw [readValue_scalar .null Kind.noConfusion Kind.noConfusion]
    rfl
  | bool b =>
    intro cs _
    rw [readValue_scalar (.bool b) Kind.noConfusion Kind.noConfusion]
    cases b <;> rfl
  | number n =>
    intro cs hcs
    rw [readValue_scalar (.number n) Kind.noConfusion Kind.noConfusion, Value.chars,
      readScalar_number]
    cases n with
    | integer n hn => rw [numberChars, readNumber_intChars hn hcs, Option.map_some]
    | double d => exact absurd rfl (Value.withoutDoubles_number.1 hdoubles d)
  | string s =>
    intro cs _
    have hread := readString_stringChars s cs
    rw [readValue_scalar (.string s) Kind.noConfusion Kind.noConfusion]
    show (readString (stringChars s ++ cs)).map _ = _
    rw [hread, Option.map_some]
  | array items ih =>
    obtain ⟨hcount, hlength⟩ := length_itemChars items
    rw [Value.chars, List.length_cons, List.length_append] at hfuel
    rw [Value.depth] at hdepth
    obtain ⟨depth, rfl⟩ : ∃ d, depth = d + 1 := ⟨depth - 1, by omega⟩
    refine reads_array (fun u hu => ih u hu (Value.ordered_array.1 hordered u hu)
      (Value.withoutDoubles_array.1 hdoubles u hu) ?_ ?_) (by omega)
    · exact Nat.le_trans (Value.depth_le_depthItems hu) (by omega)
    · exact Nat.le_trans (hlength u hu) (by omega)
  | object fields ih =>
    obtain ⟨hascending, hvalues⟩ := Value.ordered_object.1 hordered
    obtain ⟨hcount, hlength⟩ := length_fieldChars fields
    rw [Value.chars, List.length_cons, List.length_append] at hfuel
    rw [Value.depth] at hdepth
    obtain ⟨depth, rfl⟩ : ∃ d, depth = d + 1 := ⟨depth - 1, by omega⟩
    have hfields : ∀ f ∈ fields, Reads (readValue fuel depth) f.2 := by
      intro f hf
      refine ih f hf (hvalues f hf) (Value.withoutDoubles_object.1 hdoubles f hf) ?_ ?_
      · exact Nat.le_trans (Value.depth_le_depthFields hf) (by omega)
      · exact Nat.le_trans (hlength f hf) (by omega)
    intro cs _
    have hstored : Fields.ofList fields = fields := hascending.insertAll_nil
    rw [read_object hfields (by omega), hstored]

/-- A text is read as what its reader makes of it. -/
theorem parse?_of_read {v w : Value}
    (h : readValue v.chars.length maxDepth (v.chars ++ []) = some (w, [])) :
    Value.parse? v.render = some w := by
  have hskip := skipBlanks_chars v []
  rw [List.append_nil] at h hskip
  have hwhole : readWhole (readValue v.chars.length maxDepth) v.chars = some w := by
    unfold readWhole
    rw [hskip, h]
    rfl
  unfold Value.parse? Value.render
  rw [String.toList_ofList]
  exact hwhole

/-- **What is written is read back.** -/
theorem parse?_render {v : Value} (hordered : v.Ordered) (hdoubles : v.WithoutDoubles)
    (hdepth : v.depth ≤ maxDepth) : Value.parse? v.render = some v :=
  parse?_of_read (reads_value hordered hdoubles hdepth (Nat.le_refl _) [] ends_nil)

/-- An object is read with its fields in order, in whichever order they are written. -/
theorem parse?_render_object {fields : List (String × Value)}
    (h : ∀ f ∈ fields, f.2.Ordered ∧ f.2.WithoutDoubles ∧ f.2.depth < maxDepth) :
    Value.parse? (Value.render (.object fields)) = some (.object (Fields.ofList fields)) := by
  obtain ⟨hcount, hlength⟩ := length_fieldChars fields
  have hroom : (Value.fieldChars fields).length ≤ (Value.chars (.object fields)).length := by
    rw [Value.chars, List.length_cons, List.length_append]
    omega
  have hfields : ∀ f ∈ fields,
      Reads (readValue (Value.chars (.object fields)).length (maxDepth - 1)) f.2 := by
    intro f hf
    obtain ⟨hordered, hdoubles, hdepth⟩ := h f hf
    exact reads_value hordered hdoubles (Nat.le_pred_of_lt hdepth)
      (Nat.le_trans (hlength f hf) hroom)
  exact parse?_of_read (read_object hfields (Nat.le_trans hcount hroom) [])

/-! ## What is read is in order -/

/-- Whatever the reader takes off a text has its fields in order. -/
def ReadsOrdered (item : Reader Value) : Prop :=
  ∀ {cs : List Char} {v : Value} {rest : List Char}, item cs = some (v, rest) → v.Ordered

theorem readsOrdered_readScalar : ReadsOrdered readScalar := by
  intro cs v rest h
  unfold readScalar at h
  split at h <;> obtain ⟨_, -, heq⟩ := Option.map_eq_some_iff.1 h <;>
    obtain ⟨rfl, -⟩ := Prod.mk.inj heq <;> simp

section

variable {item : Reader Value} (hitem : ReadsOrdered item)
include hitem

theorem ordered_readItems {fuel : Nat} {done items : List Value} {cs rest : List Char}
    (hdone : ∀ v ∈ done, v.Ordered) (h : readItems item fuel done cs = some (items, rest)) :
    ∀ v ∈ items, v.Ordered := by
  induction fuel generalizing done cs with
  | zero => exact absurd h nofun
  | succ fuel ih =>
    unfold readItems at h
    split at h
    · exact absurd h nofun
    · rename_i v after hread
      have hmore : ∀ u ∈ v :: done, u.Ordered := List.forall_mem_cons.2 ⟨hitem hread, hdone⟩
      split at h
      · exact ih hmore h
      · obtain ⟨rfl, -⟩ := Prod.mk.inj (Option.some.inj h)
        exact fun u hu => hmore u (List.mem_reverse.1 hu)
      · exact absurd h nofun

theorem ordered_readPairs {fuel : Nat} {done pairs : List (String × Value)} {cs rest : List Char}
    (hdone : ∀ f ∈ done, f.2.Ordered) (h : readPairs item fuel done cs = some (pairs, rest)) :
    ∀ f ∈ pairs, f.2.Ordered := by
  induction fuel generalizing done cs with
  | zero => exact absurd h nofun
  | succ fuel ih =>
    unfold readPairs at h
    split at h
    · exact absurd h nofun
    · rename_i key after hkey
      split at h
      · split at h
        · exact absurd h nofun
        · rename_i v after' hread
          have hmore : ∀ f ∈ (key, v) :: done, f.2.Ordered :=
            List.forall_mem_cons.2 ⟨hitem hread, hdone⟩
          split at h
          · exact ih hmore h
          · obtain ⟨rfl, -⟩ := Prod.mk.inj (Option.some.inj h)
            exact fun f hf => hmore f (List.mem_reverse.1 hf)
          · exact absurd h nofun
      · exact absurd h nofun

theorem ordered_readObject {fuel : Nat} {pairs : List (String × Value)} {cs rest : List Char}
    (h : readObject item fuel cs = some (pairs, rest)) : ∀ f ∈ pairs, f.2.Ordered := by
  unfold readObject at h
  split at h
  · obtain ⟨rfl, -⟩ := Prod.mk.inj (Option.some.inj h)
    exact fun f hf => absurd hf List.not_mem_nil
  · exact ordered_readPairs hitem (fun f hf => absurd hf List.not_mem_nil) h

end

theorem readsOrdered_readValue (fuel depth : Nat) : ReadsOrdered (readValue fuel depth) := by
  induction depth with
  | zero =>
    intro cs v rest h
    rw [readValue.eq_def] at h
    split at h
    case h_1 => exact absurd h nofun
    case h_2 => exact absurd h nofun
    case h_3 heq => exact absurd heq nofun
    case h_4 heq => exact absurd heq nofun
    case h_5 => exact readsOrdered_readScalar h
  | succ depth ih =>
    intro cs v rest h
    rw [readValue.eq_def] at h
    split at h
    case h_1 heq => exact absurd heq nofun
    case h_2 heq => exact absurd heq nofun
    case h_3 heq =>
      obtain rfl := Nat.succ.inj heq
      split at h
      · obtain ⟨rfl, -⟩ := Prod.mk.inj (Option.some.inj h)
        exact Value.ordered_array.2 fun u hu => absurd hu List.not_mem_nil
      · obtain ⟨⟨items, after⟩, hread, hv⟩ := Option.map_eq_some_iff.1 h
        obtain ⟨rfl, -⟩ := Prod.mk.inj hv
        exact Value.ordered_array.2
          (ordered_readItems ih (fun u hu => absurd hu List.not_mem_nil) hread)
    case h_4 heq =>
      obtain rfl := Nat.succ.inj heq
      obtain ⟨⟨pairs, after⟩, hread, hv⟩ := Option.map_eq_some_iff.1 h
      obtain ⟨rfl, -⟩ := Prod.mk.inj hv
      refine Value.ordered_object.2
        ⟨Fields.ascending_insertAll List.Pairwise.nil pairs, fun f hf => ?_⟩
      rcases Fields.mem_insertAll hf with hf | hf
      · exact ordered_readObject ih hread f hf
      · exact absurd hf List.not_mem_nil
    case h_5 => exact readsOrdered_readScalar h

/-- **What is read has its fields in order.** -/
theorem ordered_of_parse? {text : String} {v : Value} (h : Value.parse? text = some v) :
    v.Ordered := by
  unfold Value.parse? readWhole at h
  dsimp only at h
  split at h
  · rename_i hread
    split at h
    · obtain rfl := Option.some.inj h
      exact readsOrdered_readValue _ _ hread
    · exact absurd h nofun
  · exact absurd h nofun

end LiveSync.Json
