import LiveSync.Payload.Normalizer
import LiveSync.Proofs.Json.Values
import LiveSync.Proofs.Payload.KeyCase

/-!
# Payloads in two cases

A payload is re-cased field by field: each field is given its new name and its new value, and the
fields are stored in the order of the new names.

* `transform_object`, `transform_array` — re-casing as a map over the parts of a value.
* `ordered_transform` — the fields stay in order.
* `inbound_outbound_idempotent` — a payload that has been re-cased stays as it is.
* `Normalizer.Recases` — the names in a payload that are re-cased.
* `isExcluded_apply` — a name that comes back is excluded on the way back as on the way there.
* `transform_transform_of_returns` — a payload comes back if each of these names does.
* `returns_of_canonical` — the names of which that is known.
-/

namespace LiveSync.Payload

open LiveSync.Json

namespace Normalizer

/-! ## Field by field -/

/-- The new name of a field. -/
def rekey (n : Normalizer) (target : KeyCase) (key : String) : String :=
  if n.isExcluded key then key else rename target key

/-- A field as it is stored. -/
def recase (n : Normalizer) (target : KeyCase) (f : String × Value) : String × Value :=
  (n.rekey target f.1, if n.isExcluded f.1 then f.2 else n.transform target f.2)

section

variable {n : Normalizer} {key : String} (target : KeyCase) (value : Value)

theorem recase_of_isExcluded (h : n.isExcluded key = true) :
    n.recase target (key, value) = (key, value) := by
  unfold recase rekey
  rw [if_pos h, if_pos h]

theorem recase_of_not_isExcluded (h : n.isExcluded key = false) :
    n.recase target (key, value) = (rename target key, n.transform target value) := by
  have hkey : ¬n.isExcluded key = true := ne_true_of_eq_false h
  unfold recase rekey
  rw [if_neg hkey, if_neg hkey]

end

theorem transformFields_eq (n : Normalizer) (target : KeyCase) (fields : List (String × Value))
    (done : Fields) :
    n.transformFields target fields done = done.insertAll (fields.map (n.recase target)) := by
  induction fields generalizing done with
  | nil => rfl
  | cons f rest ih =>
    obtain ⟨key, value⟩ := f
    unfold transformFields
    rw [List.map_cons]
    cases h : n.isExcluded key with
    | true =>
      rw [if_pos rfl, ih, recase_of_isExcluded target value h]
      rfl
    | false =>
      rw [if_neg Bool.false_ne_true, ih, recase_of_not_isExcluded target value h]
      rfl

/-- An object is re-cased field by field. -/
theorem transform_object (n : Normalizer) (target : KeyCase) (fields : Fields) :
    n.transform target (.object fields) =
      .object (Fields.insertAll [] (fields.map (n.recase target))) := by
  unfold transform
  rw [transformFields_eq]

/-- An array is re-cased item by item. -/
theorem transform_array (n : Normalizer) (target : KeyCase) (items : List Value) :
    n.transform target (.array items) = .array (items.map (n.transform target)) := by
  unfold transform
  congr 1
  induction items with
  | nil => rfl
  | cons v rest ih =>
    unfold transformItems
    rw [ih, List.map_cons]

/-- A payload keeps its fields in order. -/
theorem ordered_transform (n : Normalizer) (target : KeyCase) {v : Value} (h : v.Ordered) :
    (n.transform target v).Ordered := by
  induction v using Value.induction with
  | null => exact h
  | bool b => exact h
  | number x => exact h
  | string s => exact h
  | array items ih =>
    rw [transform_array]
    refine Value.ordered_array.2 fun u hu => ?_
    obtain ⟨w, hw, rfl⟩ := List.mem_map.1 hu
    exact ih w hw (Value.ordered_array.1 h w hw)
  | object fields ih =>
    obtain ⟨-, hvalues⟩ := Value.ordered_object.1 h
    rw [transform_object]
    refine Value.ordered_object.2 ⟨Fields.ascending_insertAll List.Pairwise.nil _, fun f hf => ?_⟩
    obtain hf | hf := Fields.mem_insertAll hf
    · obtain ⟨⟨key, value⟩, hg, rfl⟩ := List.mem_map.1 hf
      cases hkey : n.isExcluded key with
      | true =>
        rw [recase_of_isExcluded target value hkey]
        exact hvalues (key, value) hg
      | false =>
        rw [recase_of_not_isExcluded target value hkey]
        exact ih (key, value) hg (hvalues (key, value) hg)
    · exact absurd hf List.not_mem_nil

/-! ## A second time -/

theorem rename_rename (target : KeyCase) (key : String) :
    rename target (rename target key) = rename target key := by
  unfold rename
  by_cases h : isIdentifier key = true
  · rw [if_pos h, if_pos (isIdentifier_apply target h), KeyCase.apply_apply]
  · rw [if_neg h, if_neg h]

/-- A stored field stays, if its value does. -/
theorem recase_recase {n : Normalizer} {target : KeyCase} {f : String × Value}
    (h : n.transform target (n.transform target f.2) = n.transform target f.2) :
    n.recase target (n.recase target f) = n.recase target f := by
  obtain ⟨key, value⟩ := f
  cases hkey : n.isExcluded key with
  | true => rw [recase_of_isExcluded target value hkey, recase_of_isExcluded target value hkey]
  | false =>
    rw [recase_of_not_isExcluded target value hkey]
    -- the new name may be excluded where the old one is not: then the field stays all the more
    cases hnew : n.isExcluded (rename target key) with
    | true => exact recase_of_isExcluded target _ hnew
    | false => rw [recase_of_not_isExcluded target _ hnew, rename_rename, h]

theorem transform_transform (n : Normalizer) (target : KeyCase) (v : Value) :
    n.transform target (n.transform target v) = n.transform target v := by
  induction v using Value.induction with
  | null => rfl
  | bool b => rfl
  | number x => rfl
  | string s => rfl
  | array items ih =>
    rw [transform_array, transform_array, List.map_map]
    exact congrArg Value.array (List.map_congr_left ih)
  | object fields ih =>
    rw [transform_object, transform_object]
    have hstored : ∀ f ∈ Fields.insertAll [] (fields.map (n.recase target)),
        n.recase target f = f := by
      intro f hf
      obtain hf | hf := Fields.mem_insertAll hf
      · obtain ⟨g, hg, rfl⟩ := List.mem_map.1 hf
        exact recase_recase (ih g hg)
      · exact absurd hf nofun
    rw [List.map_congr_left hstored, List.map_id'',
      (Fields.ascending_insertAll List.Pairwise.nil _).insertAll_nil]
    exact fun _ => rfl

/-- **A payload that has been re-cased stays as it is**, whatever names its fields have, in which
cases they are written and which of them are excluded. -/
theorem inbound_outbound_idempotent (n : Normalizer) (x : Value) :
    n.inbound (n.inbound x) = n.inbound x ∧ n.outbound (n.outbound x) = n.outbound x :=
  ⟨n.transform_transform n.internal x, n.transform_transform n.wire x⟩

/-! ## The way back -/

/-- A name occurs in the value as an identifier that is re-cased: it is not excluded, and it does
not stand below a field that is. -/
inductive Recases (n : Normalizer) (key : String) : Value → Prop where
  /-- A field of the object has the name. -/
  | here {fields : Fields} {value : Value} (hf : (key, value) ∈ fields)
      (hkey : n.isExcluded key = false) (hid : isIdentifier key = true) :
      Recases n key (.object fields)
  /-- It occurs in the value of a field that is not excluded. -/
  | field {fields : Fields} {f : String × Value} (hf : f ∈ fields)
      (hkey : n.isExcluded f.1 = false) (h : Recases n key f.2) : Recases n key (.object fields)
  /-- It occurs in an item of the array. -/
  | item {items : List Value} {v : Value} (hv : v ∈ items) (h : Recases n key v) :
      Recases n key (.array items)

theorem recases_object {n : Normalizer} {key : String} {fields : Fields} :
    n.Recases key (.object fields) ↔ ∃ f ∈ fields, n.isExcluded f.1 = false ∧
      (f.1 = key ∧ isIdentifier f.1 = true ∨ n.Recases key f.2) := by
  constructor
  · intro h
    cases h with
    | here hf hkey hid => exact ⟨_, hf, hkey, Or.inl ⟨rfl, hid⟩⟩
    | field hf hkey h => exact ⟨_, hf, hkey, Or.inr h⟩
  · rintro ⟨f, hf, hkey, ⟨rfl, hid⟩ | h⟩
    · exact .here hf hkey hid
    · exact .field hf hkey h

theorem recases_array {n : Normalizer} {key : String} {items : List Value} :
    n.Recases key (.array items) ↔ ∃ v ∈ items, n.Recases key v :=
  ⟨fun h => by cases h with | item hv h => exact ⟨_, hv, h⟩, fun ⟨_, hv, h⟩ => .item hv h⟩

/-- A name that is re-cased is an identifier. -/
theorem Recases.isIdentifier {n : Normalizer} {key : String} {x : Value} (h : n.Recases key x) :
    isIdentifier key = true := by
  induction h with
  | here _ _ hid => exact hid
  | field _ _ _ ih => exact ih
  | item _ _ ih => exact ih

section

variable {n : Normalizer} {there back : KeyCase}

/-- **The verdict on the way back**: a name that comes back from the other case is excluded there
if and only if it is excluded here. -/
theorem isExcluded_of_returns {key : String} (h : back.apply (there.apply key) = key) :
    n.isExcluded (there.apply key) = n.isExcluded key := by
  -- of the three spellings that are looked up, the name in the other case is two, and the name
  -- itself is the third
  have hkey : back.apply key = key := by rw [← h, KeyCase.apply_apply]
  cases there with
  | snake =>
    cases back with
    | snake => exact congrArg n.isExcluded hkey
    | camel =>
      have htwice : toSnake (toSnake key) = toSnake key := toSnake_toSnake key
      have hback : toCamel (toSnake key) = key := h
      have hcamel : toCamel key = key := hkey
      unfold isExcluded
      rw [KeyCase.apply, htwice, hback, hcamel]
      cases n.excluded.contains (toSnake key) <;> cases n.excluded.contains key <;> rfl
  | camel =>
    cases back with
    | snake =>
      have htwice : toCamel (toCamel key) = toCamel key := toCamel_toCamel key
      have hback : toSnake (toCamel key) = key := h
      have hsnake : toSnake key = key := hkey
      unfold isExcluded
      rw [KeyCase.apply, htwice, hback, hsnake]
      cases n.excluded.contains (toCamel key) <;> cases n.excluded.contains key <;> rfl
    | camel => exact congrArg n.isExcluded hkey

/-- A field comes back, if its name and its value do. -/
theorem recase_recase_of_returns {f : String × Value}
    (hkey : n.isExcluded f.1 = false → isIdentifier f.1 = true →
      back.apply (there.apply f.1) = f.1)
    (hvalue : n.isExcluded f.1 = false → n.transform back (n.transform there f.2) = f.2) :
    n.recase back (n.recase there f) = f := by
  obtain ⟨key, value⟩ := f
  cases hf : n.isExcluded key with
  | true => rw [recase_of_isExcluded there value hf, recase_of_isExcluded back value hf]
  | false =>
    have hname : n.isExcluded (rename there key) = false ∧
        rename back (rename there key) = key := by
      unfold rename
      by_cases hid : isIdentifier key = true
      · have hreturns := hkey hf hid
        rw [if_pos hid, if_pos (isIdentifier_apply there hid), isExcluded_of_returns hreturns]
        exact ⟨hf, hreturns⟩
      · rw [if_neg hid, if_neg hid]
        exact ⟨hf, rfl⟩
    rw [recase_of_not_isExcluded there value hf, recase_of_not_isExcluded back _ hname.1, hname.2,
      hvalue hf]

/-- Fields in order that come back one by one come back together: on the way no two of them take
one name, since they have different names in the end. -/
theorem insertAll_recase_of_returns {fields : Fields} (h : fields.Ascending)
    (hreturns : ∀ f ∈ fields, n.recase back (n.recase there f) = f) :
    Fields.insertAll []
        ((Fields.insertAll [] (fields.map (n.recase there))).map (n.recase back)) = fields := by
  have hback : (fields.map (n.recase there)).map (n.recase back) = fields := by
    rw [List.map_map]
    exact (List.map_congr_left hreturns).trans (List.map_id' fields)
  have hthere : ((fields.map (n.recase there)).map Prod.fst).Nodup := by
    refine List.Nodup.of_map (n.rekey back) ?_
    have hkeys : ((fields.map (n.recase there)).map Prod.fst).map (n.rekey back) =
        ((fields.map (n.recase there)).map (n.recase back)).map Prod.fst := by
      simp only [List.map_map]
      rfl
    rw [hkeys, hback]
    exact h.nodup_keys
  have hstored : (Fields.insertAll [] (fields.map (n.recase there))).Perm
      (fields.map (n.recase there)) := Fields.perm_insertAll_nil hthere
  have hagain : ((Fields.insertAll [] (fields.map (n.recase there))).map (n.recase back)).Perm
      fields := (hstored.map (n.recase back)).trans (List.Perm.of_eq hback)
  have hlast := Fields.perm_insertAll_nil ((hagain.map Prod.fst).nodup_iff.2 h.nodup_keys)
  exact (Fields.ascending_insertAll List.Pairwise.nil _).eq_of_perm h (hlast.trans hagain)

/-- **A payload comes back** if every name in it that is re-cased does. -/
theorem transform_transform_of_returns {x : Value} (hx : x.Ordered)
    (h : ∀ key, n.Recases key x → back.apply (there.apply key) = key) :
    n.transform back (n.transform there x) = x := by
  induction x using Value.induction with
  | null => rfl
  | bool b => rfl
  | number x => rfl
  | string s => rfl
  | array items ih =>
    rw [transform_array, transform_array, List.map_map]
    refine congrArg Value.array ((List.map_congr_left fun v hv => ?_).trans (List.map_id' items))
    exact ih v hv (Value.ordered_array.1 hx v hv) fun key hkey =>
      h key (recases_array.2 ⟨v, hv, hkey⟩)
  | object fields ih =>
    obtain ⟨hascending, hvalues⟩ := Value.ordered_object.1 hx
    rw [transform_object, transform_object]
    refine congrArg Value.object (insertAll_recase_of_returns hascending fun f hf => ?_)
    have hinside : ∀ key, n.isExcluded f.1 = false →
        f.1 = key ∧ isIdentifier f.1 = true ∨ n.Recases key f.2 →
        back.apply (there.apply key) = key :=
      fun key hkey hor => h key (recases_object.2 ⟨f, hf, hkey, hor⟩)
    refine recase_recase_of_returns (fun hkey hid => hinside f.1 hkey (Or.inl ⟨rfl, hid⟩))
      fun hkey => ?_
    exact ih f hf (hvalues f hf) fun key hinner => hinside key hkey (Or.inr hinner)

end

/-- Snake case on the wire, camel case inside, and the given fields left alone. -/
def sparing (excluded : List String) : Normalizer :=
  ⟨.snake, .camel, excluded⟩

/-- **Payloads come back.**  A payload of a caller is what the wire's form of it is read as, if
every name in it that is re-cased is canonical in camel case; a payload from the wire is what the
listeners' form of it is written as, if every such name is canonical in snake case.  There is no
condition on excluded fields and what is below them, and on names that are no identifiers. -/
theorem returns_of_canonical (excluded : List String) {x : Value} (hx : x.Ordered) :
    ((∀ key, (sparing excluded).Recases key x → CamelCanonical key) →
      (sparing excluded).inbound ((sparing excluded).outbound x) = x) ∧
    ((∀ key, (sparing excluded).Recases key x → SnakeCanonical key) →
      (sparing excluded).outbound ((sparing excluded).inbound x) = x) := by
  refine ⟨fun h => transform_transform_of_returns hx fun key hkey => ?_,
    fun h => transform_transform_of_returns hx fun key hkey => ?_⟩
  · exact toCamel_toSnake hkey.isIdentifier (h key hkey)
  · exact toSnake_toCamel hkey.isIdentifier (h key hkey)

/-- Comments under a capitalised name, each with a field that is left alone, and scores under the
id of an entity. -/
def comments (id below : String) : Value :=
  .object
    [("Comments", .array
      [.object [(id, .string "X-1"), ("meta", .object [(below, .bool true)])]]),
     ("X-1", .object [("cvss_3", .bool true)])]

theorem ordered_comments {id : String} (h : id < "meta") (below : String) :
    (comments id below).Ordered := by
  have houter : ("Comments" : String) < "X-1" := by decide +kernel
  simpa [comments, Value.ordered_object, Value.ordered_array, Fields.Ascending] using
    And.intro houter h

theorem recases_comments {id below key : String}
    (h : (sparing ["meta"]).Recases key (comments id below)) : key = id ∨ key = "cvss_3" := by
  have hnames : (sparing ["meta"]).isExcluded "meta" = true ∧ isIdentifier "Comments" = false ∧
      isIdentifier "X-1" = false := by decide +kernel
  have hstring : ∀ s, ¬(sparing ["meta"]).Recases key (.string s) := nofun
  have hbool : ∀ b, ¬(sparing ["meta"]).Recases key (.bool b) := nofun
  simp [comments, recases_object, recases_array, hstring, hbool, hnames] at h
  rcases h with ⟨-, -, rfl, -⟩ | ⟨-, -, rfl, -⟩
  · exact Or.inl rfl
  · exact Or.inr rfl

/-- A payload of a caller with `entityId` and one from the wire with `__entity_id`, in which
neither is canonical below the excluded field. -/
theorem returns_of_canonical_comments :
    (sparing ["meta"]).inbound ((sparing ["meta"]).outbound (comments "entityId" "a_b")) =
        comments "entityId" "a_b" ∧
      (sparing ["meta"]).outbound ((sparing ["meta"]).inbound (comments "__entity_id" "aB")) =
        comments "__entity_id" "aB" := by
  have hscore : stem "cvss_3" = "cvss_3".toList := by decide +kernel
  have hcamel : stem "entityId" = "entityId".toList := by decide +kernel
  have hsnake : stem "__entity_id" = "entity_id".toList := by decide +kernel
  refine ⟨(returns_of_canonical _ (ordered_comments (by decide +kernel) _)).1 fun key hkey => ?_,
    (returns_of_canonical _ (ordered_comments (by decide +kernel) _)).2 fun key hkey => ?_⟩
  · rcases recases_comments hkey with rfl | rfl
    · simp [CamelCanonical, hcamel, List.infix_cons_iff, List.prefix_cons_iff]
    · simp [CamelCanonical, hscore, List.infix_cons_iff, List.prefix_cons_iff]
  · rcases recases_comments hkey with rfl | rfl
    · simp [SnakeCanonical, hsnake, List.infix_cons_iff, List.prefix_cons_iff]
    · simp [SnakeCanonical, hscore, List.infix_cons_iff, List.prefix_cons_iff]

end Normalizer
end LiveSync.Payload
