import LiveSync.Proofs.Json.Lookup
import LiveSync.Proofs.Payload.Recasing

/-!
# Which payloads come back

A payload that is brought into another case and back is the same payload exactly if every name in it
that is re-cased comes back by itself.  The names of an object cannot make up for each other: on the
way there and back a name that was written in the last case stays or gets shorter, so that names
which only change places would have to stay after all.

* `shrinks_snakeChars_camelChars`, `shrinks_camelChars_snakeChars` — there and back, character by
  character.
* `detour`, `detour_cases` — there and back for a name, with the list of excluded ones.
* `detour_eq_self` — names that come back together come back one by one.
* `transform_transform_eq_iff` — the same for a payload.
-/

namespace LiveSync.Payload

open LiveSync.Json

/-! ## Character by character -/

/-- The one text is the other, or it is shorter. -/
def Shrinks (cs ds : List Char) : Prop :=
  cs = ds ∨ cs.length < ds.length

theorem Shrinks.length_le {cs ds : List Char} (h : Shrinks cs ds) : cs.length ≤ ds.length := by
  rcases h with rfl | h
  · exact Nat.le_refl _
  · exact Nat.le_of_lt h

theorem Shrinks.append {cs ds : List Char} (h : Shrinks cs ds) (front : List Char) :
    Shrinks (front ++ cs) (front ++ ds) := by
  rcases h with rfl | h
  · exact .inl rfl
  · exact .inr (by simpa using h)

theorem Shrinks.cons {cs ds : List Char} (h : Shrinks cs ds) (c : Char) :
    Shrinks (c :: cs) (c :: ds) :=
  h.append [c]

/-- Two characters become one. -/
theorem Shrinks.merge {cs ds : List Char} (h : Shrinks cs ds) (c d e : Char) :
    Shrinks (c :: cs) (d :: e :: ds) := by
  have hle := h.length_le
  exact .inr (by simp only [List.length_cons]; omega)

/-- To camel case and back, inside a name without capitals. -/
theorem shrinks_snakeChars_camelChars {b : Char} {cs : List Char}
    (h : ∀ c ∈ cs, c.isUpper = false) : Shrinks (snakeChars (some b) (camelChars true cs)) cs := by
  generalize hbegun : true = begun
  fun_induction camelChars begun cs generalizing b with
  | case1 => exact .inl rfl
  | case2 begun c cs hjoined ih =>
    obtain ⟨-, hc⟩ := (Bool.and_eq_true ..).mp hjoined
    have hcapital : c.toUpper.isUpper = true := isUpper_toUpper hc
    have hrest : Shrinks (snakeChars (some c.toUpper) (camelChars true cs)) cs :=
      ih (fun d hd => h d (by simp [hd])) rfl
    by_cases hb : b = '_'
    · rw [hb, snakeChars_capital_underscore hcapital]
      exact hrest.merge _ _ _
    · rw [snakeChars_capital hb hcapital, toLower_toUpper hc]
      exact (hrest.cons c).cons '_'
  | case3 begun c cs hkept ih =>
    rw [snakeChars_cons rfl]
    exact (ih (fun d hd => h d (List.mem_cons_of_mem _ hd)) hbegun).cons '_'
  | case4 begun c cs hlast ih =>
    obtain ⟨hc, hcs⟩ := List.forall_mem_cons.1 h
    rw [snakeChars_cons hc]
    exact (ih hcs (by simp [← hbegun])).cons c

/-- To snake case and back: inside a name, and behind an underscore that is still open. -/
theorem shrinks_camelChars_snakeChars (cs : List Char) :
    (∀ b ≠ '_', Shrinks (camelChars true (snakeChars (some b) cs)) cs) ∧
      Shrinks (camelChars true ('_' :: snakeChars (some '_') cs)) ('_' :: cs) := by
  induction cs with
  | nil => exact ⟨fun b hb => .inl rfl, .inl rfl⟩
  | cons c cs ih =>
    obtain ⟨hinside, hopen⟩ := ih
    by_cases hu : c = '_'
    · subst hu
      refine ⟨fun b hb => ?_, ?_⟩
      · rw [snakeChars_cons rfl]
        exact hopen
      · rw [snakeChars_cons rfl, camelChars_kept (by simp)]
        exact hopen.cons '_'
    have hrest := hinside c hu
    by_cases hupper : c.isUpper = true
    · have hlower : c.toLower.isLower = true := isLower_toLower hupper
      refine ⟨fun b hb => ?_, ?_⟩
      · rw [snakeChars_capital hb hupper, camelChars_joined hlower, toUpper_toLower hupper]
        exact hrest.cons c
      · rw [snakeChars_capital_underscore hupper, camelChars_joined hlower]
        exact hrest.merge _ _ _
    · have hsnake := snakeChars_cons (Bool.eq_false_of_not_eq_true hupper)
      refine ⟨fun b hb => ?_, ?_⟩
      · rw [hsnake, camelChars_cons hu]
        exact hrest.cons c
      · rw [hsnake]
        by_cases hlower : c.isLower = true
        · rw [camelChars_joined hlower]
          exact hrest.merge _ _ _
        · rw [camelChars_kept (by simpa using hlower), camelChars_cons hu]
          exact (hrest.cons c).cons '_'

/-- **A name that is written in a case stays or gets shorter** on the way to another case and
back. -/
theorem shrinks_apply_apply (there : KeyCase) {back : KeyCase} {key : String}
    (hid : isIdentifier key = true) (hback : back.apply key = key) :
    Shrinks (back.apply (there.apply key)).toList key.toList := by
  rcases shape_of_isIdentifier hid with hall | ⟨us, c, cs, hkey, hus, -, hc, -⟩
  · rw [there.apply_underscores hall, hback]
    exact .inl rfl
  cases there with
  | snake =>
    cases back with
    | snake => exact .inl (by rw [hback, hback])
    | camel =>
      have hinner := (shrinks_camelChars_snakeChars cs).1 c (ne_underscore_of_isLower hc)
      show Shrinks (toCamel (toSnake key)).toList key.toList
      unfold toCamel toSnake
      rw [String.toList_ofList, String.toList_ofList, hkey, snakeChars_shape hus hc,
        camelChars_shape hus hc]
      exact (hinner.cons c).append us
  | camel =>
    cases back with
    | snake =>
      have hcapitals : ∀ d ∈ us ++ c :: cs, d.isUpper = false := by
        rw [← hkey, ← hback]
        show ∀ d ∈ (toSnake key).toList, d.isUpper = false
        rw [toSnake, String.toList_ofList]
        exact not_isUpper_snakeChars none _
      have hinner : Shrinks (snakeChars (some c) (camelChars true cs)) cs :=
        shrinks_snakeChars_camelChars fun d hd => hcapitals d (by simp [hd])
      show Shrinks (toSnake (toCamel key)).toList key.toList
      unfold toCamel toSnake
      rw [String.toList_ofList, String.toList_ofList, hkey, camelChars_shape hus hc,
        snakeChars_shape hus hc]
      exact (hinner.cons c).append us
    | camel => exact .inl (by rw [hback, hback])

namespace Normalizer

variable {n : Normalizer} {there back : KeyCase}

/-! ## Names -/

/-- The name that a field has once it is brought into one case and then into another. -/
def detour (n : Normalizer) (there back : KeyCase) (key : String) : String :=
  n.rekey back (n.rekey there key)

theorem rekey_rekey (n : Normalizer) (target : KeyCase) (key : String) :
    n.rekey target (n.rekey target key) = n.rekey target key := by
  unfold rekey
  by_cases hkey : n.isExcluded key = true
  · rw [if_pos hkey, if_pos hkey]
  rw [if_neg hkey]
  by_cases hnew : n.isExcluded (rename target key) = true
  · rw [if_pos hnew]
  · rw [if_neg hnew, rename_rename]

/-- A name on a detour stays, or it stays the second time, or it gets shorter. -/
theorem detour_cases (there : KeyCase) {key : String} (h : n.rekey back key = key) :
    n.detour there back key = key ∨
      n.detour there back (n.detour there back key) = n.detour there back key ∨
      (n.detour there back key).toList.length < key.toList.length := by
  by_cases hkey : n.isExcluded key = true
  · refine .inl ?_
    unfold detour rekey
    rw [if_pos hkey, if_pos hkey]
  by_cases hid : isIdentifier key = true
  · have hthere : n.rekey there key = there.apply key := by
      rw [rekey, if_neg hkey, rename, if_pos hid]
    have hback : back.apply key = key := by
      rwa [rekey, if_neg hkey, rename, if_pos hid] at h
    by_cases hnew : n.isExcluded (there.apply key) = true
    · -- what it is called on the way is excluded, so that it is called so ever after
      have hstays : ∀ target, n.rekey target (there.apply key) = there.apply key :=
        fun target => if_pos hnew
      refine .inr (.inl ?_)
      unfold detour
      rw [hthere, hstays, hstays, hstays]
    · have hdetour : n.detour there back key = back.apply (there.apply key) := by
        rw [detour, hthere, rekey, if_neg hnew, rename, if_pos (isIdentifier_apply there hid)]
      rw [hdetour]
      rcases shrinks_apply_apply there hid hback with hsame | hshorter
      · exact .inl (String.toList_injective hsame)
      · exact .inr (.inr hshorter)
  · refine .inl ?_
    have hstays : ∀ target, n.rekey target key = key := fun target => by
      rw [rekey, if_neg hkey, rename, if_neg hid]
    rw [detour, hstays, hstays]

/-- **Names that come back together come back one by one.**  No name of a list takes the place of
another: none gets longer, so none gets shorter either. -/
theorem detour_eq_self {keys : List String} (hnodup : keys.Nodup)
    (hperm : (keys.map (n.detour there back)).Perm keys) :
    ∀ key ∈ keys, n.detour there back key = key := by
  have hinj := List.inj_on_of_nodup_map (hperm.nodup_iff.2 hnodup)
  have hmem : ∀ key ∈ keys, n.detour there back key ∈ keys := fun key hkey =>
    hperm.mem_iff.1 (List.mem_map_of_mem hkey)
  have hshrinks : ∀ key ∈ keys, n.detour there back key = key ∨
      (n.detour there back key).toList.length < key.toList.length := by
    intro key hkey
    obtain ⟨origin, -, rfl⟩ := List.mem_map.1 (hperm.mem_iff.2 hkey)
    have hwritten : n.rekey back (n.detour there back origin) = n.detour there back origin :=
      n.rekey_rekey back _
    rcases detour_cases there hwritten with hsame | hsecond | hshorter
    · exact .inl hsame
    · exact .inl (hinj (hmem _ hkey) hkey hsecond)
    · exact .inr hshorter
  have hsum : (keys.map fun key => (n.detour there back key).toList.length).sum =
      (keys.map fun key => key.toList.length).sum := by
    have hlengths := (hperm.map fun key => key.toList.length).sum_eq
    rwa [List.map_map] at hlengths
  intro key hkey
  by_contra hmoved
  have hlt : (n.detour there back key).toList.length < key.toList.length :=
    (hshrinks key hkey).resolve_left hmoved
  have hle : ∀ name ∈ keys, (n.detour there back name).toList.length ≤ name.toList.length := by
    intro name hname
    rcases hshrinks name hname with hsame | hshorter
    · rw [hsame]
    · exact Nat.le_of_lt hshorter
  exact absurd hsum (Nat.ne_of_lt (List.sum_lt_sum _ _ hle ⟨key, hkey, hlt⟩))

/-- A name that is re-cased comes back exactly if it does as a name alone. -/
theorem apply_apply_of_detour {key : String} (hkey : n.isExcluded key = false)
    (hid : isIdentifier key = true) (h : n.detour there back key = key) :
    n.isExcluded (there.apply key) = false ∧ back.apply (there.apply key) = key := by
  have hthere : n.rekey there key = there.apply key := by
    rw [rekey, if_neg (ne_true_of_eq_false hkey), rename, if_pos hid]
  rw [detour, hthere, rekey] at h
  cases hnew : n.isExcluded (there.apply key) with
  | true =>
    rw [if_pos hnew] at h
    rw [h, hkey] at hnew
    exact absurd hnew Bool.false_ne_true
  | false =>
    rw [hnew, if_neg Bool.false_ne_true, rename, if_pos (isIdentifier_apply there hid)] at h
    exact ⟨rfl, h⟩

/-! ## Payloads -/

/-- Fields that come back together come back one by one. -/
theorem recase_recase_of_insertAll {fields : Fields} (h : fields.Ascending)
    (hback : Fields.insertAll []
      ((Fields.insertAll [] (fields.map (n.recase there))).map (n.recase back)) = fields) :
    ∀ f ∈ fields, n.recase back (n.recase there f) = f := by
  have hfirst := Fields.length_insertAll_le (fields.map (n.recase there))
  have hsecond := Fields.length_insertAll_le
    ((Fields.insertAll [] (fields.map (n.recase there))).map (n.recase back))
  rw [List.length_map] at hfirst hsecond
  rw [hback] at hsecond
  have hthere : (Fields.insertAll [] (fields.map (n.recase there))).Perm
      (fields.map (n.recase there)) :=
    Fields.perm_insertAll_of_length (by rw [List.length_map]; exact hsecond)
  have hagain : (Fields.insertAll []
      ((Fields.insertAll [] (fields.map (n.recase there))).map (n.recase back))).Perm
      ((Fields.insertAll [] (fields.map (n.recase there))).map (n.recase back)) :=
    Fields.perm_insertAll_of_length (by rw [hback, List.length_map]; exact hfirst)
  rw [hback] at hagain
  have hperm : (fields.map fun f => n.recase back (n.recase there f)).Perm fields := by
    have htrip := hagain.trans (hthere.map (n.recase back))
    rw [List.map_map] at htrip
    exact htrip.symm
  have hkeys : ((fields.map Prod.fst).map (n.detour there back)).Perm (fields.map Prod.fst) := by
    have hnames := hperm.map Prod.fst
    rw [List.map_map] at hnames ⊢
    exact hnames
  intro f hf
  have hname := detour_eq_self h.nodup_keys hkeys f.1 (List.mem_map_of_mem hf)
  have hmem : n.recase back (n.recase there f) ∈ fields :=
    hperm.mem_iff.1 (List.mem_map_of_mem hf)
  exact List.inj_on_of_nodup_map h.nodup_keys hmem hf hname

/-- **Which payloads come back.**  A payload that is brought into one case and then into another is
the same as before if and only if every name in it that is re-cased comes back. -/
theorem transform_transform_eq_iff {x : Value} (hx : x.Ordered) :
    n.transform back (n.transform there x) = x ↔
      ∀ key, n.Recases key x → back.apply (there.apply key) = key := by
  refine ⟨fun h => ?_, transform_transform_of_returns hx⟩
  induction x using Value.induction with
  | null => intro key hkey; cases hkey
  | bool b => intro key hkey; cases hkey
  | number x => intro key hkey; cases hkey
  | string s => intro key hkey; cases hkey
  | array items ih =>
    intro key hkey
    obtain ⟨v, hv, hinner⟩ := recases_array.1 hkey
    rw [transform_array, transform_array, List.map_map] at h
    have hitems : items.map (n.transform back ∘ n.transform there) = items.map id := by
      rw [Value.array.inj h, List.map_id]
    exact ih v hv (Value.ordered_array.1 hx v hv) (List.map_inj_left.1 hitems v hv) key hinner
  | object fields ih =>
    intro key hkey
    obtain ⟨f, hf, hincluded, hor⟩ := recases_object.1 hkey
    obtain ⟨hascending, hvalues⟩ := Value.ordered_object.1 hx
    rw [transform_object, transform_object] at h
    have hfield := recase_recase_of_insertAll hascending (Value.object.inj h) f hf
    have hname : n.detour there back f.1 = f.1 := congrArg Prod.fst hfield
    rcases hor with ⟨rfl, hid⟩ | hinner
    · exact (apply_apply_of_detour hincluded hid hname).2
    · -- the value comes back too, since the new name is no more excluded than the old one
      have hnew : n.isExcluded (n.rekey there f.1) = false := by
        rw [rekey, if_neg (ne_true_of_eq_false hincluded), rename]
        split
        · rename_i hid
          exact (apply_apply_of_detour hincluded hid hname).1
        · exact hincluded
      have hvalue : n.transform back (n.transform there f.2) = f.2 := by
        have hsnd := congrArg Prod.snd hfield
        unfold recase at hsnd
        simpa only [hincluded, hnew, Bool.false_eq_true, if_false] using hsnd
      exact ih f hf (hvalues f hf) hvalue key hinner

end Normalizer
end LiveSync.Payload
