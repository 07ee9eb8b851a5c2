import LiveSync.Proofs.Payload.Recasing

/-!
# Excluded fields

A re-cased object is filled in the order of the old names, and of two fields that take one name the
later stays.  A name only moves back in this order on its way to snake case, and only forward on its
way to camel case.  So an excluded field is never lost in snake case; in camel case it is lost to a
field behind it that takes its name, which only a name that is not canonical does.

* `not_rename_snake_lt`, `not_lt_rename_camel` — where a name moves in the order.
* `Normalizer.usurpers` — the fields that take the name of an excluded one.
* `noncanonical_of_usurps` — when there are any.
* `get?_transform_of_isExcluded` — what is found under an excluded name.
* `excluded_survives_iff` — when an excluded field survives.
-/

namespace LiveSync.Payload

open LiveSync.Json

/-! ## The order of the names -/

theorem lt_toLower {c : Char} (h : c.isUpper = true) : c < c.toLower := by
  simp only [Char.isUpper, Char.toLower, Char.lt_def] at *
  grind

theorem lt_underscore {c : Char} (h : c.isUpper = true) : c < '_' := by
  simp only [Char.isUpper, Char.lt_def] at *
  grind

theorem toUpper_lt_underscore {c : Char} (h : c.isLower = true) : c.toUpper < '_' := by
  refine lt_underscore ?_
  rw [Char.isUpper_toUpper_eq_isAlpha, Char.isAlpha, h, Bool.or_true]

theorem not_cons_lt_cons {c d : Char} (h : c < d) (cs ds : List Char) : ¬d :: cs < c :: ds := by
  rw [List.cons_lt_cons_iff]
  rintro (hlt | ⟨rfl, -⟩)
  · exact absurd hlt (Char.lt_asymm h)
  · exact absurd h (Char.lt_irrefl d)

theorem not_cons_lt_cons_self (c : Char) {cs ds : List Char} (h : ¬cs < ds) :
    ¬c :: cs < c :: ds := by
  rw [List.cons_lt_cons_iff]
  rintro (hlt | ⟨-, hlt⟩)
  · exact absurd hlt (Char.lt_irrefl c)
  · exact h hlt

/-- The first capital gives way to a character that stands behind it. -/
theorem not_snakeChars_lt (before : Option Char) (cs : List Char) :
    ¬snakeChars before cs < cs := by
  induction cs generalizing before with
  | nil => exact List.not_lt_nil _
  | cons c cs ih =>
    unfold snakeChars
    split
    · rename_i hupper
      split
      · exact not_cons_lt_cons (lt_toLower hupper) _ _
      · split
        · exact not_cons_lt_cons (lt_toLower hupper) _ _
        · exact not_cons_lt_cons (lt_underscore hupper) _ _
    · exact not_cons_lt_cons_self c (ih (some c))

/-- The first underscore that goes gives way to a character that stands before it. -/
theorem not_lt_camelChars (begun : Bool) (cs : List Char) : ¬cs < camelChars begun cs := by
  fun_induction camelChars begun cs with
  | case1 => exact List.not_lt_nil _
  | case2 begun c cs hjoined =>
    obtain ⟨-, hlower⟩ := (Bool.and_eq_true ..).mp hjoined
    exact not_cons_lt_cons (toUpper_lt_underscore hlower) _ _
  | case3 begun c cs _ ih => exact not_cons_lt_cons_self '_' ih
  | case4 begun c cs _ ih => exact not_cons_lt_cons_self c ih

namespace Normalizer

/-- **To snake case a name moves back**, if it moves. -/
theorem not_rename_snake_lt (key : String) : ¬rename .snake key < key := by
  unfold rename
  split
  · show ¬toSnake key < key
    rw [String.lt_iff, toSnake, String.toList_ofList]
    exact not_snakeChars_lt none key.toList
  · exact String.lt_irrefl key

/-- **To camel case a name moves forward**, if it moves. -/
theorem not_lt_rename_camel (key : String) : ¬key < rename .camel key := by
  unfold rename
  split
  · show ¬key < toCamel key
    rw [String.lt_iff, toCamel, String.toList_ofList]
    exact not_lt_camelChars false key.toList
  · exact String.lt_irrefl key

/-! ## Fields that take an excluded name -/

/-- The fields that are not excluded and take a name all the same. -/
def usurpers (n : Normalizer) (target : KeyCase) (fields : Fields) (key : String) : Fields :=
  fields.filter fun f => !n.isExcluded f.1 && rename target f.1 = key

theorem mem_usurpers {n : Normalizer} {target : KeyCase} {fields : Fields} {key : String}
    {f : String × Value} :
    f ∈ n.usurpers target fields key ↔
      f ∈ fields ∧ n.isExcluded f.1 = false ∧ rename target f.1 = key := by
  simp [usurpers]

section

variable {n : Normalizer} {key name : String} (hkey : n.isExcluded key = true)
  (hname : n.isExcluded name = false)
include hkey hname

/-- **When a name becomes an excluded one in camel case.**  Only the snake form of the excluded
name is listed, and the name does not come back from camel case. -/
theorem noncanonical_of_usurps (h : rename .camel name = key) :
    toSnake key ∈ n.excluded ∧ key ∉ n.excluded ∧ ¬SnakeCanonical name := by
  have hid : isIdentifier name = true := by
    by_contra hid
    rw [rename, if_neg hid] at h
    rw [h, hkey] at hname
    contradiction
  obtain rfl : toCamel name = key := by rwa [rename, if_pos hid] at h
  simp only [isExcluded, toCamel_toCamel, Bool.or_eq_true, Bool.or_eq_false_iff,
    List.contains_iff_mem] at hkey hname
  simp only [← Bool.not_eq_true, List.contains_iff_mem] at hname
  obtain ⟨⟨hlisted, -⟩, hcamel⟩ := hname
  have hsnake : toSnake (toCamel name) ∈ n.excluded :=
    (hkey.resolve_right hcamel).resolve_left hcamel
  refine ⟨hsnake, hcamel, fun hcanonical => hlisted ?_⟩
  rwa [toSnake_toCamel hid hcanonical] at hsnake

end

/-! ## What is found in the end -/

/-- What is found under a name comes from the last field that takes it. -/
theorem get?_transform (n : Normalizer) (target : KeyCase) (fields : Fields) (key : String) :
    (n.transform target (.object fields)).get? key =
      (fields.filter fun f => n.rekey target f.1 = key).getLast?.map
        fun f => (n.recase target f).2 := by
  rw [transform_object]
  show (Fields.insertAll [] (fields.map (n.recase target))).get? key = _
  rw [Fields.get?_insertAll, Fields.last?_eq_getLast?, List.filter_map, List.getLast?_map,
    Option.map_map]
  exact Option.or_none

/-- Among fields with other names, those that are excluded do not take the name. -/
theorem filter_rekey_eq_usurpers (n : Normalizer) (target : KeyCase) {fields : Fields}
    {key : String} (h : ∀ f ∈ fields, f.1 ≠ key) :
    (fields.filter fun f => n.rekey target f.1 = key) = n.usurpers target fields key := by
  refine List.filter_congr fun f hf => ?_
  cases hexcluded : n.isExcluded f.1 with
  | true => simp [rekey, hexcluded, h f hf]
  | false => simp [rekey, hexcluded]

/-- **The fields that take the name of an excluded one**: in snake case they stand before it, and
in camel case behind it. -/
theorem filter_rekey_of_isExcluded {n : Normalizer} {fields : Fields} (h : fields.Ascending)
    {key : String} {value : Value} (hf : (key, value) ∈ fields) (hkey : n.isExcluded key = true) :
    (fields.filter fun f => n.rekey .snake f.1 = key) =
        n.usurpers .snake fields key ++ [(key, value)] ∧
      (fields.filter fun f => n.rekey .camel f.1 = key) =
        (key, value) :: n.usurpers .camel fields key := by
  obtain ⟨front, back, rfl⟩ := List.append_of_mem hf
  obtain ⟨-, hback, hcross⟩ := List.pairwise_append.1 h
  have hbefore : ∀ f ∈ front, f.1 < key := fun f hf => hcross f hf _ List.mem_cons_self
  have hbehind : ∀ f ∈ back, key < f.1 := (List.pairwise_cons.1 hback).1
  have hfront := fun target => n.filter_rekey_eq_usurpers target fun f hf =>
    String.ne_of_lt (hbefore f hf)
  have hrest := fun target => n.filter_rekey_eq_usurpers target fun f hf =>
    (String.ne_of_lt (hbehind f hf)).symm
  have hself : ∀ target, (((key, value) :: back).filter fun f => n.rekey target f.1 = key) =
      (key, value) :: back.filter fun f => n.rekey target f.1 = key := fun target =>
    List.filter_cons_of_pos (decide_eq_true (if_pos hkey))
  have hparts : ∀ target, n.usurpers target (front ++ (key, value) :: back) key =
      n.usurpers target front key ++ n.usurpers target back key := fun target => by
    simp [usurpers, hkey]
  have hsnake : n.usurpers .snake back key = [] := by
    refine List.eq_nil_iff_forall_not_mem.2 fun f hf => ?_
    obtain ⟨hmem, -, hname⟩ := mem_usurpers.1 hf
    exact not_rename_snake_lt f.1 (hname ▸ hbehind f hmem)
  have hcamel : n.usurpers .camel front key = [] := by
    refine List.eq_nil_iff_forall_not_mem.2 fun f hf => ?_
    obtain ⟨hmem, -, hname⟩ := mem_usurpers.1 hf
    exact not_lt_rename_camel f.1 (hname ▸ hbefore f hmem)
  constructor
  · rw [hparts, hsnake, List.append_nil, List.filter_append, hself, hfront, hrest, hsnake]
  · rw [hparts, hcamel, List.nil_append, List.filter_append, hself, hfront, hrest, hcamel,
      List.nil_append]

/-- **What becomes of an excluded field.**  In snake case it stays as it is, and in camel case
unless a field takes its name, of which the last one stays. -/
theorem get?_transform_of_isExcluded {n : Normalizer} {fields : Fields} (h : fields.Ascending)
    {key : String} {value : Value} (hf : (key, value) ∈ fields) (hkey : n.isExcluded key = true) :
    (n.transform .snake (.object fields)).get? key = some value ∧
      (n.transform .camel (.object fields)).get? key =
        some (((n.usurpers .camel fields key).getLast?.map
          fun f => n.transform .camel f.2).getD value) := by
  obtain ⟨hsnake, hcamel⟩ := filter_rekey_of_isExcluded h hf hkey
  rw [get?_transform, get?_transform, hsnake, hcamel]
  constructor
  · rw [List.getLast?_concat, Option.map_some, recase_of_isExcluded .snake value hkey]
  · rw [List.getLast?_cons, Option.map_some]
    cases hlast : (n.usurpers .camel fields key).getLast? with
    | none => rw [Option.getD_none, recase_of_isExcluded .camel value hkey]; rfl
    | some f =>
      obtain ⟨-, hname, -⟩ := mem_usurpers.1 (List.mem_of_getLast? hlast)
      rw [Option.getD_some, recase_of_not_isExcluded .camel f.2 hname]
      rfl

/-- **When an excluded field survives.**  It keeps its name and its value in snake case, and in
camel case exactly if no field takes its name with another value.  For that to happen the name must
be listed in snake case alone, and the other name must not come back from camel case. -/
theorem excluded_survives_iff (n : Normalizer) {fields : Fields} (h : fields.Ascending)
    {key : String} {value : Value} (hf : (key, value) ∈ fields) (hkey : n.isExcluded key = true)
    (target : KeyCase) :
    ((n.transform target (.object fields)).get? key = some value ↔
      target = .snake ∨
        ∀ f ∈ (n.usurpers .camel fields key).getLast?, n.transform .camel f.2 = value) ∧
    ∀ f ∈ n.usurpers .camel fields key,
      toSnake key ∈ n.excluded ∧ key ∉ n.excluded ∧ ¬SnakeCanonical f.1 := by
  obtain ⟨hsnake, hcamel⟩ := get?_transform_of_isExcluded h hf hkey
  constructor
  · cases target with
    | snake => exact iff_of_true hsnake (Or.inl rfl)
    | camel =>
      rw [hcamel]
      cases hlast : (n.usurpers .camel fields key).getLast? with
      | none => simp
      | some f => simp
  · intro f hf
    obtain ⟨-, hname, htakes⟩ := mem_usurpers.1 hf
    exact noncanonical_of_usurps hkey hname htakes

/-- Three spellings of a name that is listed in snake case.  The second one is not excluded and
becomes a fourth in camel case, so that the first one survives. -/
theorem excluded_survives_iff_spellings :
    let n := sparing ["custom_fields"]
    let fields : Fields := [("customFields", .string "a"), ("custom__fields", .string "b"),
      ("custom_fields", .string "c")]
    fields.Ascending ∧ ("customFields", Value.string "a") ∈ fields ∧
      n.isExcluded "customFields" = true ∧ n.isExcluded "custom__fields" = false ∧
      (n.transform .camel (.object fields)).get? "customFields" = some (.string "a") := by
  intro n fields
  have hfields : fields.Ascending := by
    simp only [fields, Fields.Ascending, List.pairwise_cons, List.forall_mem_cons]
    decide +kernel
  have hmem : ("customFields", Value.string "a") ∈ fields := List.mem_cons_self
  have hkey : n.isExcluded "customFields" = true := by decide +kernel
  have hnone : n.usurpers .camel fields "customFields" = [] := by decide +kernel
  refine ⟨hfields, hmem, hkey, by decide +kernel, ?_⟩
  exact (excluded_survives_iff n hfields hmem hkey .camel).1.2 (Or.inr (by simp [hnone]))

/-- An excluded field is lost to one that takes its name: the underscore that is doubled goes in
camel case and does not come back in the snake case in which the excluded name is listed. -/
theorem excluded_field_overwritten :
    let n := sparing ["custom_fields"]
    let fields : Fields := [("custom_Fields", .string "a"), ("custom__fields", .string "b")]
    fields.Ascending ∧ ("custom_Fields", Value.string "a") ∈ fields ∧
      n.isExcluded "custom_Fields" = true ∧
      n.transform .camel (.object fields) = .object [("custom_Fields", .string "b")] := by
  have horder : "custom_Fields" < "custom__fields" := by decide +kernel
  exact ⟨List.pairwise_pair.2 horder, List.mem_cons_self, by decide +kernel, by decide +kernel⟩

end Normalizer
end LiveSync.Payload
