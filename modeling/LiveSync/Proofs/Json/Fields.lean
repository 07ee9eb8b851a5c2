import LiveSync.Json.Value

/-!
# Storing fields

What becomes of the fields of an object when values are stored in it one after the other.  Only the
last value of a field counts, and the order in which different fields are stored does not matter.

* `found?_insert` — what is found after storing.
* `insert_insert_self`, `insert_insert_comm` — storing a field twice, and storing two fields.
* `get?_insertAll`, `insertAll_insertAll` — what is found after a row of stores, and storing a row
  twice.
* `insertAll_ext` — two rows of stores come to the same object if every field comes to the same.
-/

namespace LiveSync.Json
namespace Fields

/-- The value under a key where `insert` looks for it: past every key that stands before.  Where
the keys ascend this is the value under the key. -/
def found? (fields : Fields) (key : String) : Option Value :=
  match fields with
  | [] => none
  | (k, v) :: rest => if k = key then some v else if k < key then found? rest key else none

/-! ## One store -/

theorem found?_insert (fields : Fields) (key : String) (value : Value) (name : String) :
    (fields.insert key value).found? name =
      if key = name then some value else fields.found? name := by
  induction fields with
  | nil =>
    unfold insert found?
    by_cases h : key = name
    · rw [if_pos h, if_pos h]
    · rw [if_neg h, if_neg h]
      split <;> rfl
  | cons field rest ih =>
    obtain ⟨k, v⟩ := field
    unfold insert
    by_cases hk : k = key
    · subst hk
      rw [if_pos rfl]
      by_cases h : k = name
      · simp only [found?, if_pos h]
      · simp only [found?, if_neg h]
    · rw [if_neg hk]
      by_cases hlt : k < key
      · rw [if_pos hlt]
        by_cases hn : k = name
        · have hkey : key ≠ name := fun hc => hk (hn.trans hc.symm)
          simp only [found?, if_pos hn, if_neg hkey]
        · simp only [found?, if_neg hn, ih]
          by_cases hkn : k < name
          · simp only [if_pos hkn]
          · have hkey : key ≠ name := fun hc => hkn (hc ▸ hlt)
            simp only [if_neg hkn, if_neg hkey]
      · rw [if_neg hlt]
        by_cases h : key = name
        · simp only [found?, if_pos h]
        · simp only [found?, if_neg h]
          by_cases hkn : key < name
          · rw [if_pos hkn]
          · -- what stands after a later key is not found
            have hlt' : name < k := by
              rcases Std.lt_trichotomy k key with h1 | h1 | h1
              · exact absurd h1 hlt
              · exact absurd h1 hk
              · rcases Std.lt_trichotomy key name with h2 | h2 | h2
                · exact absurd h2 hkn
                · exact absurd h2 h
                · exact String.lt_trans h2 h1
            have hne : k ≠ name := fun hc => String.ne_of_lt hlt' hc.symm
            have hnlt : ¬k < name := fun hc => String.ne_of_lt (String.lt_trans hc hlt') rfl
            rw [if_neg hkn, if_neg hne, if_neg hnlt]

/-- Reading after storing: the stored value under its own key, and the old one elsewhere. -/
theorem get?_insert (fields : Fields) (key : String) (value : Value) (name : String) :
    (fields.insert key value).get? name = if key = name then some value else fields.get? name := by
  induction fields with
  | nil => simp only [insert, get?]
  | cons field rest ih =>
    obtain ⟨k, v⟩ := field
    by_cases hk : k = key
    · subst hk
      by_cases h : k = name
      · simp only [insert, get?, if_true, if_pos h]
      · simp only [insert, get?, if_true, if_neg h]
    · by_cases hlt : k < key
      · by_cases h : k = name
        · have hkey : key ≠ name := fun hc => hk (h.trans hc.symm)
          simp only [insert, get?, if_neg hk, if_pos hlt, if_pos h, if_neg hkey]
        · simp only [insert, get?, if_neg hk, if_pos hlt, if_neg h, ih]
      · simp only [insert, get?, if_neg hk, if_neg hlt]

/-- Storing what is found already changes nothing. -/
theorem insert_of_found? {fields : Fields} {key : String} {value : Value}
    (h : fields.found? key = some value) : fields.insert key value = fields := by
  induction fields with
  | nil => exact absurd h nofun
  | cons field rest ih =>
    obtain ⟨k, v⟩ := field
    unfold found? at h
    unfold insert
    by_cases hk : k = key
    · rw [if_pos hk] at h ⊢
      rw [hk, Option.some.inj h]
    · rw [if_neg hk] at h ⊢
      by_cases hlt : k < key
      · rw [if_pos hlt] at h ⊢
        rw [ih h]
      · rw [if_neg hlt] at h
        exact absurd h nofun

/-! ## Two stores -/

theorem insert_insert_self (fields : Fields) (key : String) (value value' : Value) :
    (fields.insert key value).insert key value' = fields.insert key value' := by
  induction fields with
  | nil => simp only [insert, if_true]
  | cons field rest ih =>
    obtain ⟨k, v⟩ := field
    by_cases hk : k = key
    · simp only [insert, if_pos hk, if_true]
    · by_cases hlt : k < key
      · simp only [insert, if_neg hk, if_pos hlt, ih]
      · simp only [insert, if_neg hk, if_neg hlt, if_true]

theorem insert_insert_comm_of_lt {key key' : String} (h : key < key') (fields : Fields)
    (value value' : Value) :
    (fields.insert key value).insert key' value' =
      (fields.insert key' value').insert key value := by
  have hne : key ≠ key' := String.ne_of_lt h
  have hnlt : ¬key' < key := fun hc => String.ne_of_lt (String.lt_trans h hc) rfl
  induction fields with
  | nil => simp only [insert, if_neg hne, if_neg hne.symm, if_pos h, if_neg hnlt]
  | cons field rest ih =>
    obtain ⟨k, v⟩ := field
    by_cases hk : k = key
    · have hk' : k ≠ key' := fun hc => hne (hk.symm.trans hc)
      have hlt' : k < key' := hk ▸ h
      simp only [insert, if_pos hk, if_neg hne, if_pos h, if_neg hk', if_pos hlt']
    · by_cases hlt : k < key
      · have hlt' : k < key' := String.lt_trans hlt h
        have hk' : k ≠ key' := String.ne_of_lt hlt'
        simp only [insert, if_neg hk, if_pos hlt, if_neg hk', if_pos hlt', ih]
      · by_cases hk' : k = key'
        · simp only [insert, if_neg hk, if_neg hlt, if_neg hne, if_pos h, if_pos hk',
            if_neg hne.symm, if_neg hnlt]
        · by_cases hlt' : k < key'
          · simp only [insert, if_neg hk, if_neg hlt, if_neg hne, if_pos h, if_neg hk',
              if_pos hlt']
          · simp only [insert, if_neg hk, if_neg hlt, if_neg hne, if_pos h, if_neg hk',
              if_neg hlt', if_neg hne.symm, if_neg hnlt]

theorem insert_insert_comm {key key' : String} (h : key ≠ key') (fields : Fields)
    (value value' : Value) :
    (fields.insert key value).insert key' value' =
      (fields.insert key' value').insert key value := by
  rcases Std.lt_trichotomy key key' with hlt | heq | hlt
  · exact insert_insert_comm_of_lt hlt fields value value'
  · exact absurd heq h
  · exact (insert_insert_comm_of_lt hlt fields value' value).symm

/-! ## A row of stores -/

/-- The last value of a key in a row of pairs. -/
def last? (pairs : List (String × Value)) (key : String) : Option Value :=
  match pairs with
  | [] => none
  | p :: rest => (last? rest key).or (if p.1 = key then some p.2 else none)

/-- Store the values of a row of pairs, one after the other. -/
def insertAll (fields : Fields) (pairs : List (String × Value)) : Fields :=
  pairs.foldl (fun o f => Fields.insert o f.1 f.2) fields

theorem insertAll_append (fields : Fields) (a b : List (String × Value)) :
    fields.insertAll (a ++ b) = (fields.insertAll a).insertAll b :=
  List.foldl_append

/-- The last value that was stored is found, and else what was there before. -/
theorem found?_insertAll (fields : Fields) (pairs : List (String × Value)) (name : String) :
    (fields.insertAll pairs).found? name = (last? pairs name).or (fields.found? name) := by
  induction pairs generalizing fields with
  | nil => rfl
  | cons p rest ih =>
    show ((fields.insert p.1 p.2).insertAll rest).found? name = _
    rw [ih, found?_insert, last?, Option.or_assoc]
    by_cases h : p.1 = name <;> simp [h]

theorem get?_insertAll (fields : Fields) (pairs : List (String × Value)) (name : String) :
    (fields.insertAll pairs).get? name = (last? pairs name).or (fields.get? name) := by
  induction pairs generalizing fields with
  | nil => rfl
  | cons p rest ih =>
    show ((fields.insert p.1 p.2).insertAll rest).get? name = _
    rw [ih, get?_insert, last?, Option.or_assoc]
    by_cases h : p.1 = name <;> simp [h]

/-- The last value of a key is that of the last pair with the key. -/
theorem last?_eq_getLast? (pairs : List (String × Value)) (key : String) :
    last? pairs key = (pairs.filter fun p => p.1 = key).getLast?.map (·.2) := by
  induction pairs with
  | nil => rfl
  | cons p rest ih =>
    rw [last?, ih, List.filter_cons]
    by_cases h : p.1 = key
    · cases hrest : (rest.filter fun q => q.1 = key).getLast? <;>
        simp [h, List.getLast?_cons, hrest]
    · simp [h]

/-- A value that is stored over does not count. -/
theorem insertAll_insert_of_last? {pairs : List (String × Value)} {key : String}
    (h : (last? pairs key).isSome) (fields : Fields) (value : Value) :
    (fields.insert key value).insertAll pairs = fields.insertAll pairs := by
  induction pairs generalizing fields with
  | nil => exact absurd h nofun
  | cons p rest ih =>
    show ((fields.insert key value).insert p.1 p.2).insertAll rest =
      (fields.insert p.1 p.2).insertAll rest
    by_cases hp : p.1 = key
    · rw [hp, insert_insert_self]
    · rw [insert_insert_comm (Ne.symm hp), ih]
      simpa [last?, hp] using h

/-- What is found in the end may as well be stored in the beginning. -/
theorem insertAll_insert_of_found? {fields : Fields} {pairs : List (String × Value)} {key : String}
    {value : Value} (h : (fields.insertAll pairs).found? key = some value) :
    (fields.insert key value).insertAll pairs = fields.insertAll pairs := by
  cases hl : last? pairs key with
  | some w => exact insertAll_insert_of_last? (by rw [hl]; rfl) fields value
  | none =>
    rw [found?_insertAll, hl, Option.none_or] at h
    rw [insert_of_found? h]

/-- Stores that are found already change nothing. -/
theorem insertAll_eq_self {fields : Fields} {pairs : List (String × Value)}
    (h : ∀ name, (fields.insertAll pairs).found? name = fields.found? name) :
    fields.insertAll pairs = fields := by
  induction pairs with
  | nil => rfl
  | cons p rest ih =>
    have hrest : fields.insertAll (p :: rest) = fields.insertAll rest := by
      show (fields.insert p.1 p.2).insertAll rest = fields.insertAll rest
      cases hl : last? rest p.1 with
      | some w => exact insertAll_insert_of_last? (by rw [hl]; rfl) fields p.2
      | none =>
        have hfound := h p.1
        rw [found?_insertAll, last?, hl, if_pos rfl, Option.none_or, Option.some_or] at hfound
        rw [insert_of_found? hfound.symm]
    rw [hrest] at h ⊢
    exact ih h

/-- A row of stores that is repeated changes nothing. -/
theorem insertAll_insertAll (fields : Fields) (pairs : List (String × Value)) :
    (fields.insertAll pairs).insertAll pairs = fields.insertAll pairs := by
  refine insertAll_eq_self fun name => ?_
  rw [found?_insertAll, found?_insertAll, ← Option.or_assoc, Option.or_self]

/-- **Rows of stores are told apart by what is found.**  If every field is found the same after two
rows of stores, the rows come to the same object. -/
theorem insertAll_ext {a b : List (String × Value)} (fields : Fields)
    (h : ∀ name, (fields.insertAll a).found? name = (fields.insertAll b).found? name) :
    fields.insertAll a = fields.insertAll b := by
  induction a generalizing fields with
  | nil => exact (insertAll_eq_self fun name => (h name).symm).symm
  | cons p rest ih =>
    cases hl : last? rest p.1 with
    | some w =>
      have hrest : fields.insertAll (p :: rest) = fields.insertAll rest :=
        insertAll_insert_of_last? (by rw [hl]; rfl) fields p.2
      rw [hrest] at h ⊢
      exact ih fields h
    | none =>
      -- the first value is found in the end, so that the other row may begin with it too
      have hfound : (fields.insertAll b).found? p.1 = some p.2 := by
        rw [← h, found?_insertAll, last?, hl, if_pos rfl, Option.none_or, Option.some_or]
      have hb := insertAll_insert_of_found? hfound
      rw [← hb]
      refine ih (fields.insert p.1 p.2) fun name => ?_
      rw [hb]
      exact h name

end Fields

/-- The last value of a key counts. -/
theorem Value.get?_ofPairs (pairs : List (String × Value)) (name : String) :
    (Value.ofPairs pairs).get? name = Fields.last? pairs name :=
  (Fields.get?_insertAll [] pairs name).trans Option.or_none

end LiveSync.Json
