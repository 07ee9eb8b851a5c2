import LiveSync.Proofs.Json.Fields
import Mathlib.Data.List.Perm.Basic

/-!
# Values and their parts

A value is made of the values in it.  The fields of an object stand in strictly ascending order of
their keys at every depth; such an object is what storing its fields in any order comes to.

* `Value.induction` — a fact goes over from the parts of a value to the value.
* `Value.Contains` — a value occurs in another one.
* `Value.Ordered`, `Value.WithoutDoubles`, `Value.depth` — what is said of a whole value.
* `Fields.Ascending` — the keys ascend; `ascending_insertAll` — storing keeps them so.
* `Fields.perm_insertAll` — fields with different keys all stay.
* `Fields.Ascending.eq_of_perm` — the same fields in order are the same object.
-/

namespace LiveSync.Json

/-! ## Fields in order -/

namespace Fields

/-- The keys ascend strictly. -/
def Ascending (fields : Fields) : Prop :=
  fields.Pairwise fun f g => f.1 < g.1

theorem mem_insert {fields : Fields} {key : String} {value : Value} {f : String × Value}
    (h : f ∈ fields.insert key value) : f = (key, value) ∨ f ∈ fields := by
  induction fields with
  | nil => exact Or.inl (List.mem_singleton.1 h)
  | cons field rest ih =>
    obtain ⟨k, v⟩ := field
    unfold insert at h
    split at h
    · exact (List.mem_cons.1 h).imp_right (List.mem_cons_of_mem _)
    split at h
    · rcases List.mem_cons.1 h with rfl | h
      · exact Or.inr List.mem_cons_self
      · exact (ih h).imp_right (List.mem_cons_of_mem _)
    · exact List.mem_cons.1 h

theorem ascending_insert {fields : Fields} (h : fields.Ascending) (key : String) (value : Value) :
    (fields.insert key value).Ascending := by
  induction fields with
  | nil => exact List.pairwise_singleton ..
  | cons field rest ih =>
    obtain ⟨k, v⟩ := field
    obtain ⟨hfirst, hrest⟩ := List.pairwise_cons.1 h
    unfold insert
    by_cases hk : k = key
    · rw [if_pos hk]
      exact List.pairwise_cons.2 ⟨hk ▸ hfirst, hrest⟩
    rw [if_neg hk]
    by_cases hlt : k < key
    · rw [if_pos hlt]
      refine List.pairwise_cons.2 ⟨fun f hf => ?_, ih hrest⟩
      rcases mem_insert hf with rfl | hf
      · exact hlt
      · exact hfirst f hf
    · rw [if_neg hlt]
      have hkey : key < k := by
        rcases Std.lt_trichotomy k key with h1 | h1 | h1
        · exact absurd h1 hlt
        · exact absurd h1 hk
        · exact h1
      refine List.pairwise_cons.2 ⟨fun f hf => ?_, h⟩
      rcases List.mem_cons.1 hf with rfl | hf
      · exact hkey
      · exact String.lt_trans hkey (hfirst f hf)

/-- A new field is put in, and the others stay. -/
theorem perm_insert {fields : Fields} {key : String} (h : key ∉ fields.map Prod.fst)
    (value : Value) : (fields.insert key value).Perm ((key, value) :: fields) := by
  induction fields with
  | nil => exact List.Perm.refl _
  | cons field rest ih =>
    obtain ⟨k, v⟩ := field
    rw [List.map_cons, List.mem_cons, not_or] at h
    unfold insert
    rw [if_neg (Ne.symm h.1)]
    split
    · exact ((ih h.2).cons _).trans (List.Perm.swap ..)
    · exact List.Perm.refl _

/-- A field whose key comes last is put at the end. -/
theorem insert_of_last {fields : Fields} {key : String} (h : ∀ f ∈ fields, f.1 < key)
    (value : Value) : fields.insert key value = fields ++ [(key, value)] := by
  induction fields with
  | nil => rfl
  | cons field rest ih =>
    obtain ⟨k, v⟩ := field
    have hlt : k < key := h (k, v) List.mem_cons_self
    unfold insert
    rw [if_neg (String.ne_of_lt hlt), if_pos hlt,
      ih fun f hf => h f (List.mem_cons_of_mem _ hf), List.cons_append]

theorem mem_insertAll {fields : Fields} {pairs : List (String × Value)} {f : String × Value}
    (h : f ∈ fields.insertAll pairs) : f ∈ pairs ∨ f ∈ fields := by
  induction pairs generalizing fields with
  | nil => exact Or.inr h
  | cons p rest ih =>
    rcases ih h with h | h
    · exact Or.inl (List.mem_cons_of_mem _ h)
    · rcases mem_insert h with rfl | h
      · exact Or.inl List.mem_cons_self
      · exact Or.inr h

theorem ascending_insertAll {fields : Fields} (h : fields.Ascending)
    (pairs : List (String × Value)) : (fields.insertAll pairs).Ascending := by
  induction pairs generalizing fields with
  | nil => exact h
  | cons p rest ih => exact ih (ascending_insert h p.1 p.2)

/-- **Fields with different keys all stay**, whatever the order in which they are stored. -/
theorem perm_insertAll {fields : Fields} {pairs : List (String × Value)}
    (h : ((pairs ++ fields).map Prod.fst).Nodup) :
    (fields.insertAll pairs).Perm (pairs ++ fields) := by
  induction pairs generalizing fields with
  | nil => exact List.Perm.refl _
  | cons p rest ih =>
    obtain ⟨key, value⟩ := p
    have hmiddle : ((key, value) :: (rest ++ fields)).Perm (rest ++ (key, value) :: fields) :=
      List.perm_middle.symm
    have hnodup : ((rest ++ (key, value) :: fields).map Prod.fst).Nodup :=
      (hmiddle.map Prod.fst).nodup_iff.1 h
    have hnew : key ∉ fields.map Prod.fst := by
      rw [List.map_append, List.map_cons] at hnodup
      exact (List.nodup_cons.1 (List.nodup_append.1 hnodup).2.1).1
    have hinsert : (rest ++ fields.insert key value).Perm (rest ++ (key, value) :: fields) :=
      (perm_insert hnew value).append_left rest
    have hrest : ((fields.insert key value).insertAll rest).Perm
        (rest ++ fields.insert key value) := ih ((hinsert.map Prod.fst).nodup_iff.2 hnodup)
    exact hrest.trans (hinsert.trans hmiddle.symm)

theorem perm_insertAll_nil {pairs : List (String × Value)} (h : (pairs.map Prod.fst).Nodup) :
    (insertAll [] pairs).Perm pairs := by
  have hperm : (insertAll [] pairs).Perm (pairs ++ []) :=
    perm_insertAll (by rwa [List.append_nil])
  rwa [List.append_nil] at hperm

namespace Ascending

variable {fields : Fields}

theorem nodup_keys (h : fields.Ascending) : (fields.map Prod.fst).Nodup := by
  refine List.pairwise_map.2 (h.imp fun hlt heq => ?_)
  exact String.ne_of_lt hlt heq

/-- **The same fields in order are the same object.** -/
theorem eq_of_perm {fields' : Fields} (h : fields.Ascending) (h' : fields'.Ascending)
    (hperm : fields.Perm fields') : fields = fields' := by
  refine hperm.eq_of_pairwise (fun f g _ _ hlt hgt => ?_) h h'
  exact absurd (String.lt_trans hlt hgt) (String.lt_irrefl f.1)

/-- Fields in order are stored as they stand. -/
theorem insertAll_nil (h : fields.Ascending) : insertAll [] fields = fields := by
  have hstored : ∀ done : Fields, Ascending (done ++ fields) →
      done.insertAll fields = done ++ fields := by
    clear h
    induction fields with
    | nil => exact fun done _ => (List.append_nil done).symm
    | cons p rest ih =>
      obtain ⟨key, value⟩ := p
      intro done hall
      have hlast : ∀ f ∈ done, f.1 < key := fun f hf =>
        (List.pairwise_append.1 hall).2.2 f hf (key, value) List.mem_cons_self
      rw [List.append_cons] at hall ⊢
      show (done.insert key value).insertAll rest = _
      rw [insert_of_last hlast, ih _ hall]
  exact hstored [] h

end Ascending

end Fields

/-! ## The parts of a value -/

namespace Value

/-- A fact that goes over from the items of an array and from the values of the fields of an object
holds of every value. -/
@[elab_as_elim]
theorem induction {motive : Value → Prop} (null : motive .null) (bool : ∀ b, motive (.bool b))
    (number : ∀ n, motive (.number n)) (string : ∀ s, motive (.string s))
    (array : ∀ items, (∀ v ∈ items, motive v) → motive (.array items))
    (object : ∀ fields : Fields, (∀ f ∈ fields, motive f.2) → motive (.object fields))
    (v : Value) : motive v := by
  refine @Value.rec motive (fun items => ∀ v ∈ items, motive v)
    (fun fields => ∀ f ∈ fields, motive f.2) (fun f => motive f.2)
    null bool number string array object ?noItems ?moreItems ?noFields ?moreFields ?field v
  case noItems => exact nofun
  case moreItems =>
    intro v rest hv hrest
    exact List.forall_mem_cons.2 ⟨hv, hrest⟩
  case noFields => exact nofun
  case moreFields =>
    intro f rest hf hrest
    exact List.forall_mem_cons.2 ⟨hf, hrest⟩
  case field => exact fun _ _ hv => hv

/-- **Every value is equal to itself**, also up to the sign of zero. -/
theorem same_self (v : Value) : v.same v = true := by
  induction v using Value.induction with
  | null => rfl
  | bool b => simp [same]
  | number n => cases n <;> simp [same, Number.same, Decimal.Double.same]
  | string s => simp [same]
  | array items ih =>
    have hitems : sameItems items items = true := by
      induction items with
      | nil => rfl
      | cons v rest ihrest =>
        obtain ⟨hv, hrest⟩ := List.forall_mem_cons.1 ih
        simp [sameItems, hv, ihrest hrest]
    simp [same, hitems]
  | object fields ih =>
    have hfields : sameFields fields fields = true := by
      induction fields with
      | nil => rfl
      | cons f rest ihrest =>
        obtain ⟨hf, hrest⟩ := List.forall_mem_cons.1 ih
        simp [sameFields, hf, ihrest hrest]
    simp [same, hfields]

/-- A value occurs in another one, or is it. -/
inductive Contains : Value → Value → Prop where
  /-- Every value occurs in itself. -/
  | self (v : Value) : Contains v v
  /-- What occurs in an item occurs in the array. -/
  | item {items : List Value} {u v : Value} (hu : u ∈ items) (h : Contains u v) :
      Contains (.array items) v
  /-- What occurs in the value of a field occurs in the object. -/
  | field {fields : Fields} {f : String × Value} {v : Value} (hf : f ∈ fields)
      (h : Contains f.2 v) : Contains (.object fields) v

theorem contains_array {items : List Value} {v : Value} :
    Contains (.array items) v ↔ v = .array items ∨ ∃ u ∈ items, Contains u v := by
  constructor
  · intro h
    cases h with
    | self => exact Or.inl rfl
    | item hu h => exact Or.inr ⟨_, hu, h⟩
  · rintro (rfl | ⟨u, hu, h⟩)
    · exact .self _
    · exact .item hu h

theorem contains_object {fields : Fields} {v : Value} :
    Contains (.object fields) v ↔ v = .object fields ∨ ∃ f ∈ fields, Contains f.2 v := by
  constructor
  · intro h
    cases h with
    | self => exact Or.inl rfl
    | field hf h => exact Or.inr ⟨_, hf, h⟩
  · rintro (rfl | ⟨f, hf, h⟩)
    · exact .self _
    · exact .field hf h

/-- The fields of every object in the value ascend. -/
def Ordered (v : Value) : Prop :=
  ∀ fields : Fields, v.Contains (.object fields) → fields.Ascending

/-- No number in the value is a double. -/
def WithoutDoubles (v : Value) : Prop :=
  ∀ d, ¬v.Contains (.number (.double d))

section

variable {items : List Value} {fields : Fields}

theorem ordered_array : Ordered (.array items) ↔ ∀ u ∈ items, u.Ordered := by
  refine ⟨fun h u hu inner hinner => h inner (.item hu hinner), fun h inner hinner => ?_⟩
  obtain heq | ⟨u, hu, hin⟩ := contains_array.1 hinner
  · exact absurd heq nofun
  · exact h u hu inner hin

theorem ordered_object :
    Ordered (.object fields) ↔ fields.Ascending ∧ ∀ f ∈ fields, f.2.Ordered := by
  refine ⟨fun h => ⟨h fields (.self _), fun f hf inner hinner => h inner (.field hf hinner)⟩,
    fun h inner hinner => ?_⟩
  obtain heq | ⟨f, hf, hin⟩ := contains_object.1 hinner
  · exact Value.object.inj heq ▸ h.1
  · exact h.2 f hf inner hin

@[simp] theorem ordered_null : Ordered .null := nofun

@[simp] theorem ordered_bool (b : Bool) : Ordered (.bool b) := nofun

@[simp] theorem ordered_number (n : Number) : Ordered (.number n) := nofun

@[simp] theorem ordered_string (s : String) : Ordered (.string s) := nofun

theorem withoutDoubles_array :
    WithoutDoubles (.array items) ↔ ∀ u ∈ items, u.WithoutDoubles := by
  refine ⟨fun h u hu d hd => h d (.item hu hd), fun h d hd => ?_⟩
  obtain heq | ⟨u, hu, hin⟩ := contains_array.1 hd
  · exact absurd heq nofun
  · exact h u hu d hin

theorem withoutDoubles_object :
    WithoutDoubles (.object fields) ↔ ∀ f ∈ fields, f.2.WithoutDoubles := by
  refine ⟨fun h f hf d hd => h d (.field hf hd), fun h d hd => ?_⟩
  obtain heq | ⟨f, hf, hin⟩ := contains_object.1 hd
  · exact absurd heq nofun
  · exact h f hf d hin

theorem withoutDoubles_number {n : Number} :
    WithoutDoubles (.number n) ↔ ∀ d, n ≠ .double d := by
  refine ⟨fun h d hd => h d (hd ▸ .self _), fun h d hd => ?_⟩
  cases hd with
  | self => exact h d rfl

@[simp] theorem withoutDoubles_null : WithoutDoubles .null := nofun

@[simp] theorem withoutDoubles_bool (b : Bool) : WithoutDoubles (.bool b) := nofun

@[simp] theorem withoutDoubles_string (s : String) : WithoutDoubles (.string s) := nofun

end

mutual

/-- How deep arrays and objects nest in a value. -/
def depth : Value → Nat
  | .array items => depthItems items + 1
  | .object fields => depthFields fields + 1
  | _ => 0

/-- How deep they nest in the items of an array. -/
def depthItems : List Value → Nat
  | [] => 0
  | v :: rest => max v.depth (depthItems rest)

/-- How deep they nest in the fields of an object. -/
def depthFields : List (String × Value) → Nat
  | [] => 0
  | (_, v) :: rest => max v.depth (depthFields rest)

end

theorem depth_le_depthItems {items : List Value} {u : Value} (hu : u ∈ items) :
    u.depth ≤ depthItems items := by
  induction items with
  | nil => exact absurd hu nofun
  | cons v rest ih =>
    unfold depthItems
    rcases List.mem_cons.1 hu with rfl | hu
    · exact Nat.le_max_left ..
    · exact Nat.le_trans (ih hu) (Nat.le_max_right ..)

theorem depth_le_depthFields {fields : Fields} {f : String × Value} (hf : f ∈ fields) :
    f.2.depth ≤ depthFields fields := by
  induction fields with
  | nil => exact absurd hf nofun
  | cons g rest ih =>
    unfold depthFields
    rcases List.mem_cons.1 hf with rfl | hf
    · exact Nat.le_max_left ..
    · exact Nat.le_trans (ih hf) (Nat.le_max_right ..)

end Value
end LiveSync.Json
