import LiveSync.Proofs.Json.Lookup
import LiveSync.Proofs.Payload.Exclusion

/-!
# Spellings of a name

Several names come to one in camel case: each capital may be written as it is, or as an underscore
and a small letter.  Where an object has several spellings of a name, the one that stands last in
the order of the names counts.

* `camelChars_plain`, `camelChars_capital` — the way back from camel case.
* `eq_of_toCamel`, `eq_or_eq_of_toCamel` — the spellings of a name without a capital, and with one.
* `rekey_camel_iff`, `rekey_plain_iff` — the same for the fields of an object.
* `get?_transform_of_spellings` — what is found under a name.
-/

namespace LiveSync.Payload

open LiveSync.Json

/-! ## The way back from camel case -/

section

variable {begun : Bool} {cs ds front back : List Char} {c : Char}

/-- Where there is no capital in the end, nothing was changed. -/
theorem camelChars_of_plain (h : ∀ d ∈ camelChars begun cs, d.isUpper = false) :
    camelChars begun cs = cs := by
  fun_induction camelChars begun cs with
  | case1 => rfl
  | case2 begun c cs hjoined =>
    obtain ⟨-, hc⟩ := (Bool.and_eq_true ..).mp hjoined
    have hcapital := h c.toUpper List.mem_cons_self
    rw [isUpper_toUpper hc] at hcapital
    exact absurd hcapital.symm Bool.false_ne_true
  | case3 begun c cs _ ih => rw [ih fun d hd => h d (List.mem_cons_of_mem _ hd)]
  | case4 begun c cs _ ih => rw [ih fun d hd => h d (List.mem_cons_of_mem _ hd)]

/-- Any other character stood there before. -/
theorem camelChars_plain (hc : c.isUpper = false) (h : camelChars begun cs = c :: ds) :
    ∃ begun' cs', cs = c :: cs' ∧ camelChars begun' cs' = ds := by
  fun_induction camelChars begun cs with
  | case1 => exact absurd h.symm (List.cons_ne_nil _ _)
  | case2 begun d cs hjoined =>
    obtain ⟨-, hd⟩ := (Bool.and_eq_true ..).mp hjoined
    obtain ⟨rfl, -⟩ := List.cons.inj h
    rw [isUpper_toUpper hd] at hc
    exact absurd hc.symm Bool.false_ne_true
  | case3 =>
    obtain ⟨rfl, htail⟩ := List.cons.inj h
    exact ⟨_, _, rfl, htail⟩
  | case4 =>
    obtain ⟨rfl, htail⟩ := List.cons.inj h
    exact ⟨_, _, rfl, htail⟩

/-- Up to the first capital nothing was changed. -/
theorem camelChars_split (hfront : ∀ d ∈ front, d.isUpper = false)
    (h : camelChars begun cs = front ++ ds) :
    ∃ begun' cs', cs = front ++ cs' ∧ camelChars begun' cs' = ds := by
  induction front generalizing begun cs with
  | nil => exact ⟨begun, cs, rfl, h⟩
  | cons d front ih =>
    obtain ⟨hd, hrest⟩ := List.forall_mem_cons.1 hfront
    obtain ⟨_, tail, rfl, htail⟩ := camelChars_plain hd h
    obtain ⟨begun', cs', rfl, hcs'⟩ := ih hrest htail
    exact ⟨begun', cs', rfl, hcs'⟩

/-- A capital stood there before, or it was an underscore and a small letter. -/
theorem camelChars_capital (hc : c.isUpper = true) (h : camelChars begun cs = c :: ds) :
    ∃ cs', (cs = c :: cs' ∨ cs = '_' :: c.toLower :: cs') ∧ camelChars true cs' = ds := by
  have hne : '_' ≠ c := by
    rintro rfl
    exact absurd hc (by decide)
  fun_induction camelChars begun cs with
  | case1 => exact absurd h.symm (List.cons_ne_nil _ _)
  | case2 begun d cs hjoined =>
    obtain ⟨-, hd⟩ := (Bool.and_eq_true ..).mp hjoined
    obtain ⟨rfl, htail⟩ := List.cons.inj h
    exact ⟨cs, .inr (by rw [toLower_toUpper hd]), htail⟩
  | case3 => exact absurd (List.cons.inj h).1 hne
  | case4 begun d cs _ =>
    obtain ⟨rfl, htail⟩ := List.cons.inj h
    have hbegun : (begun || d != '_') = true := by simp [hne.symm]
    exact ⟨cs, .inl rfl, hbegun ▸ htail⟩

/-- A name without capitals has one spelling. -/
theorem eq_of_toCamel {key name : String} (hname : ∀ d ∈ name.toList, d.isUpper = false)
    (h : toCamel key = name) : key = name := by
  have hchars : camelChars false key.toList = name.toList := by
    rw [← h, toCamel, String.toList_ofList]
  refine String.toList_injective ?_
  rw [← hchars, camelChars_of_plain (hchars ▸ hname)]

/-- A name with one capital has two spellings. -/
theorem eq_or_eq_of_toCamel {key : String} (hfront : ∀ d ∈ front, d.isUpper = false)
    (hc : c.isUpper = true) (hback : ∀ d ∈ back, d.isUpper = false)
    (h : (toCamel key).toList = front ++ c :: back) :
    key.toList = front ++ c :: back ∨ key.toList = front ++ '_' :: c.toLower :: back := by
  rw [toCamel, String.toList_ofList] at h
  obtain ⟨_, rest, hkey, hrest⟩ := camelChars_split hfront h
  obtain ⟨tail, hor, htail⟩ := camelChars_capital hc hrest
  obtain rfl : tail = back := by rw [← htail, camelChars_of_plain (htail ▸ hback)]
  rw [hkey]
  exact hor.imp (congrArg (front ++ ·)) (congrArg (front ++ ·))

end

namespace Normalizer

/-! ## What is found under a name -/

/-- The names that come to one, if none of them is excluded. -/
theorem rekey_camel_iff {n : Normalizer} {name : String} {keys : List String} (hself : name ∈ keys)
    (hcamel : ∀ key ∈ keys, n.isExcluded key = false ∧ rename .camel key = name)
    (hspellings : ∀ key, toCamel key = name → key ∈ keys) (key : String) :
    n.rekey .camel key = name ↔ key ∈ keys := by
  constructor
  · intro h
    unfold rekey at h
    split at h
    · exact h ▸ hself
    unfold rename at h
    split at h
    · exact hspellings key h
    · exact h ▸ hself
  · intro hkey
    obtain ⟨hincluded, hname⟩ := hcamel key hkey
    rw [rekey, if_neg (ne_true_of_eq_false hincluded), hname]

/-- To a name without capitals no other comes. -/
theorem rekey_plain_iff {n : Normalizer} {name : String} (hincluded : n.isExcluded name = false)
    (hcamel : rename .camel name = name) (hplain : ∀ c ∈ name.toList, c.isUpper = false)
    (key : String) : n.rekey .camel key = name ↔ key ∈ [name] := by
  refine rekey_camel_iff List.mem_cons_self (List.forall_mem_singleton.2 ⟨hincluded, hcamel⟩) ?_ key
  intro key h
  exact List.mem_singleton.2 (eq_of_toCamel hplain h)

theorem get?_transform_object {n : Normalizer} {target : KeyCase} {fields : Fields}
    (h : fields.Ascending) {name : String} {keys : List String} (hkeys : keys.Pairwise (· < ·))
    (hname : ∀ key, n.rekey target key = name ↔ key ∈ keys)
    (hincluded : ∀ key ∈ keys, n.isExcluded key = false) :
    (n.transform target (.object fields)).get? name =
      (keys.filterMap fun key => Fields.get? fields key).getLast?.map (n.transform target) := by
  have hfields : (fields.filter fun f => n.rekey target f.1 = name) =
      keys.filterMap fun key => (Fields.get? fields key).map (key, ·) := by
    rw [← Fields.filter_mem_keys h hkeys]
    exact List.filter_congr fun f _ => by simp [hname]
  have hvalues : (keys.filterMap fun key => Fields.get? fields key) =
      (keys.filterMap fun key => (Fields.get? fields key).map (key, ·)).map Prod.snd := by
    rw [List.map_filterMap]
    refine List.filterMap_congr fun key _ => ?_
    cases Fields.get? fields key <;> rfl
  rw [get?_transform, hfields, hvalues, List.getLast?_map, Option.map_map]
  refine Option.map_congr fun f hf => ?_
  obtain ⟨key, hkey, hfound⟩ := List.mem_filterMap.1 (List.mem_of_getLast? hf)
  obtain ⟨value, -, rfl⟩ := Option.map_eq_some_iff.1 hfound
  rw [recase_of_not_isExcluded target value (hincluded key hkey)]
  rfl

/-- **Of several spellings the last one counts.**  Under a name a payload has, once it is re-cased,
the value of the last field with one of the spellings of the name. -/
theorem get?_transform_of_spellings {n : Normalizer} {target : KeyCase} {x : Value} (hx : x.Ordered)
    {name : String} {keys : List String} (hkeys : keys.Pairwise (· < ·))
    (hname : ∀ key, n.rekey target key = name ↔ key ∈ keys)
    (hincluded : ∀ key ∈ keys, n.isExcluded key = false) :
    (n.transform target x).get? name =
      (keys.filterMap x.get?).getLast?.map (n.transform target) := by
  have hnil : (∀ key, x.get? key = none) → keys.filterMap x.get? = [] := by
    intro h
    exact List.filterMap_eq_nil_iff.2 fun key _ => h key
  cases x with
  | object fields =>
    exact get?_transform_object (Value.ordered_object.1 hx).1 hkeys hname hincluded
  | array items =>
    rw [hnil fun _ => rfl, transform_array]
    rfl
  | null | bool _ | number _ | string _ =>
    rw [hnil fun _ => rfl]
    rfl

end Normalizer
end LiveSync.Payload
