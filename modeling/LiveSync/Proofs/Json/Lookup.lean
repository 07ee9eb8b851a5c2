import LiveSync.Proofs.Json.Values
import Mathlib.Data.List.Nodup
import Mathlib.Data.List.Perm.Subperm

/-!
# Finding fields

What is found in an object is what is in it, since every key is there once.  Fields that are stored
one after the other come to as many fields only if they have different keys.

* `mem_of_get?`, `get?_of_mem` — what is found.
* `filter_mem_keys` — the fields with one of some keys.
* `length_insertAll_le`, `perm_insertAll_of_length` — how many fields a row of stores comes to.
-/

namespace LiveSync.Json.Fields

/-! ## One field -/

theorem mem_of_get? {fields : Fields} {key : String} {value : Value}
    (h : fields.get? key = some value) : (key, value) ∈ fields := by
  induction fields with
  | nil => exact absurd h nofun
  | cons field rest ih =>
    obtain ⟨k, v⟩ := field
    unfold get? at h
    split at h
    · rename_i hk
      rw [hk, Option.some.inj h]
      exact List.mem_cons_self
    · exact List.mem_cons_of_mem _ (ih h)

theorem get?_of_mem {fields : Fields} (h : fields.Ascending) {key : String} {value : Value}
    (hf : (key, value) ∈ fields) : fields.get? key = some value := by
  induction fields with
  | nil => exact absurd hf List.not_mem_nil
  | cons field rest ih =>
    obtain ⟨k, v⟩ := field
    obtain ⟨hbehind, hrest⟩ := List.pairwise_cons.1 h
    rcases List.mem_cons.1 hf with heq | hf
    · obtain ⟨rfl, rfl⟩ := Prod.mk.inj heq
      exact if_pos rfl
    · have hne : k ≠ key := String.ne_of_lt (hbehind _ hf)
      unfold get?
      rw [if_neg hne]
      exact ih hrest hf

/-- What is left of the fields once a key is forgotten. -/
theorem erase_sublist (fields : Fields) (key : String) : (fields.erase key).Sublist fields := by
  induction fields with
  | nil => exact List.Sublist.refl _
  | cons field rest ih =>
    obtain ⟨k, v⟩ := field
    unfold erase
    split
    · exact List.sublist_cons_self _ _
    · exact ih.cons_cons _

/-! ## Several fields -/

/-- The fields with one of some keys, in the order of the keys. -/
theorem filter_mem_keys {fields : Fields} (h : fields.Ascending) {keys : List String}
    (hkeys : keys.Pairwise (· < ·)) :
    (fields.filter fun f => f.1 ∈ keys) =
      keys.filterMap fun key => (fields.get? key).map (key, ·) := by
  have hright : Ascending (keys.filterMap fun key => (fields.get? key).map (key, ·)) := by
    refine List.Pairwise.filterMap _ ?_ hkeys
    intro key key' hlt f hf f' hf'
    obtain ⟨_, -, rfl⟩ := Option.map_eq_some_iff.1 hf
    obtain ⟨_, -, rfl⟩ := Option.map_eq_some_iff.1 hf'
    exact hlt
  have hleft : Ascending (fields.filter fun f => f.1 ∈ keys) := h.filter _
  refine hleft.eq_of_perm hright ((List.perm_ext_iff_of_nodup ?_ ?_).2 fun f => ?_)
  · exact List.Nodup.of_map Prod.fst hleft.nodup_keys
  · exact List.Nodup.of_map Prod.fst hright.nodup_keys
  · obtain ⟨key, value⟩ := f
    rw [List.mem_filter, List.mem_filterMap]
    constructor
    · rintro ⟨hf, hkey⟩
      exact ⟨key, of_decide_eq_true hkey, by rw [get?_of_mem h hf]; rfl⟩
    · rintro ⟨key', hkey, hfound⟩
      obtain ⟨value', hvalue, heq⟩ := Option.map_eq_some_iff.1 hfound
      obtain ⟨rfl, rfl⟩ := Prod.mk.inj heq
      exact ⟨mem_of_get? hvalue, decide_eq_true hkey⟩

/-- The keys that are found after a row of stores are those that were stored. -/
theorem keys_insertAll_subset (pairs : List (String × Value)) :
    (insertAll [] pairs).map Prod.fst ⊆ pairs.map Prod.fst := by
  intro key hkey
  obtain ⟨f, hf, rfl⟩ := List.mem_map.1 hkey
  rcases mem_insertAll hf with hf | hf
  · exact List.mem_map_of_mem hf
  · exact absurd hf List.not_mem_nil

theorem subperm_keys_insertAll (pairs : List (String × Value)) :
    ((insertAll [] pairs).map Prod.fst).Subperm (pairs.map Prod.fst) :=
  List.subperm_of_subset (ascending_insertAll List.Pairwise.nil pairs).nodup_keys
    (keys_insertAll_subset pairs)

theorem length_insertAll_le (pairs : List (String × Value)) :
    (insertAll [] pairs).length ≤ pairs.length := by
  simpa using (subperm_keys_insertAll pairs).length_le

/-- If no field is lost, no two had one key. -/
theorem perm_insertAll_of_length {pairs : List (String × Value)}
    (h : pairs.length ≤ (insertAll [] pairs).length) : (insertAll [] pairs).Perm pairs := by
  have hkeys : ((insertAll [] pairs).map Prod.fst).Perm (pairs.map Prod.fst) :=
    (subperm_keys_insertAll pairs).perm_of_length_le (by simpa using h)
  refine perm_insertAll_nil (hkeys.nodup_iff.1 ?_)
  exact (ascending_insertAll List.Pairwise.nil pairs).nodup_keys

end LiveSync.Json.Fields
