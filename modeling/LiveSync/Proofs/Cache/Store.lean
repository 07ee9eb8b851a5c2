import LiveSync.Cache.Sync

/-!
# What events do to a cache entry

An event changes one entry at most, and it never creates one: where the rule can merge, the entry
of the payload is *patched*.

* `Rule.patch` — the value that a payload makes of a cached one.
* `get?_applyRule` — every entry after an event was applied.
* `get?_applyEach` — every entry after a row of events was applied at once.
-/

namespace LiveSync.Cache

open LiveSync.Json

namespace Store

/-- Reading after storing: the stored value for its own key, and the old one elsewhere. -/
theorem get?_set (s : Store) (key : Key) (value : Value) (other : Key) :
    (s.set key value).get? other = if key = other then some value else s.get? other := by
  obtain ⟨entries⟩ := s
  unfold get? set
  dsimp only
  induction entries with
  | nil => by_cases h : key = other <;> simp [putEntry, h]
  | cons e rest ih =>
    obtain ⟨k, v⟩ := e
    unfold putEntry
    by_cases h1 : k = key
    · subst h1
      rw [if_pos rfl]
      by_cases h : k = other <;> simp [h]
    · rw [if_neg h1]
      by_cases h2 : k.before key = true
      · rw [if_pos h2]
        by_cases hk : k = other
        · have hne : key ≠ other := fun hc => h1 (hk.trans hc.symm)
          simp [hk, hne]
        · simpa [hk] using ih
      · rw [if_neg h2]
        by_cases h : key = other <;> simp [h]

/-- Marking entries stale changes no value. -/
theorem applyAll_markStale (s : Store) (keys : List Key) :
    s.applyAll (keys.map .markStale) = s := by
  induction keys with
  | nil => rfl
  | cons key rest ih => exact ih

end Store

namespace Rule

/-- What a payload makes of a cached value; a merge that fails leaves it as it is. -/
def patch (rule : Rule) (cached payload : Value) : Value :=
  match rule.merge with
  | none => cached
  | some merge =>
    match merge cached payload with
    | .ok value => value
    | .error _ => cached

theorem patch_merging {rule : Rule} {f : Value → Value → Except Fault Value}
    (h : rule.merge = merging f) (cached payload : Value) :
    rule.patch cached payload =
      match f cached payload with
      | .ok value => value
      | .error _ => cached := by
  unfold patch
  rw [h]
  unfold merging
  dsimp only
  cases f cached payload <;> rfl

/-- What a row of payloads makes of a cached value. -/
def patchAll (rule : Rule) (cached : Value) (payloads : List Value) : Value :=
  payloads.foldl rule.patch cached

theorem patchAll_append (rule : Rule) (cached : Value) (a b : List Value) :
    rule.patchAll cached (a ++ b) = rule.patchAll (rule.patchAll cached a) b :=
  List.foldl_append

/-- The payloads of a row that are about one entry. -/
def about (rule : Rule) (key : Key) (payloads : List Value) : List Value :=
  payloads.filter fun p => rule.detailKey p = some key

theorem about_cons_of_eq {rule : Rule} {key : Key} {p : Value} (h : rule.detailKey p = some key)
    (rest : List Value) : rule.about key (p :: rest) = p :: rule.about key rest := by
  simp [about, h]

theorem about_cons_of_ne {rule : Rule} {key : Key} {p : Value} (h : rule.detailKey p ≠ some key)
    (rest : List Value) : rule.about key (p :: rest) = rule.about key rest := by
  simp [about, h]

end Rule

/-- A rule that is found stands in the table. -/
theorem RuleTable.mem_of_rule? {rules : RuleTable} {event : String} {rule : Rule}
    (h : rules.rule? event = some rule) : (event, rule) ∈ rules := by
  obtain ⟨e, he, rfl⟩ := Option.map_eq_some_iff.1 h
  have hevent : e.1 = event := by simpa using List.find?_some he
  exact hevent ▸ List.mem_of_find?_eq_some he

/-- **What an event does to an entry.**  It patches the entry that the payload is about. -/
theorem get?_applyRule (rule : Rule) (store : Store) (payload : Value) (key : Key) :
    (store.applyAll (applyRule rule store payload).2).get? key =
      if rule.detailKey payload = some key then (store.get? key).map (rule.patch · payload)
      else store.get? key := by
  unfold applyRule
  cases hm : merged? rule store payload with
  | some changed =>
    obtain ⟨k, value⟩ := changed
    show (store.set k value).get? key = _
    unfold merged? at hm
    split at hm
    · rename_i merge k' hmerge hdetail
      split at hm
      · rename_i existing hexisting
        split at hm
        · rename_i value' hvalue
          obtain ⟨rfl, rfl⟩ := Prod.mk.inj (Option.some.inj hm)
          rw [Store.get?_set, hdetail]
          by_cases hk : k' = key
          · subst hk
            rw [if_pos rfl, if_pos rfl, hexisting]
            simp [Rule.patch, hmerge, hvalue]
          · rw [if_neg hk, if_neg fun hc => hk (Option.some.inj hc)]
        · contradiction
      · contradiction
    · contradiction
  | none =>
    show (store.applyAll ((rule.staleKeys (rule.detailKey payload)).map .markStale)).get? key = _
    rw [Store.applyAll_markStale]
    split
    · rename_i hdetail
      cases hexisting : store.get? key with
      | none => rfl
      | some existing =>
        have hsame : rule.patch existing payload = existing := by
          unfold Rule.patch
          cases hmerge : rule.merge with
          | none => rfl
          | some merge =>
            cases hvalue : merge existing payload with
            | error _ => simp only [hvalue]
            | ok value =>
              unfold merged? at hm
              simp only [hmerge, hdetail, hexisting, hvalue] at hm
              contradiction
        rw [Option.map_some, hsame]
    · rfl

namespace Sync

/-- Apply a row of payloads of one event, each at once. -/
def applyEach (event : String) (s : Sync) (payloads : List Value) : Sync :=
  payloads.foldl (fun s p => (s.apply none event p).2) s

theorem get?_apply {s : Sync} {b : Bridge} (hb : s.bridge = some b) {event : String} {rule : Rule}
    (hrule : b.rules.rule? event = some rule) (time : Option Nat) (payload : Value) (key : Key) :
    (s.apply time event payload).2.store.get? key =
      if rule.detailKey payload = some key then (s.store.get? key).map (rule.patch · payload)
      else s.store.get? key := by
  unfold apply
  rw [hb]
  show (s.store.applyAll (b.apply s.store event payload).2).get? key = _
  unfold Bridge.apply
  rw [hrule]
  exact get?_applyRule rule s.store payload key

theorem bridge_apply (s : Sync) (time : Option Nat) (event : String) (payload : Value) :
    (s.apply time event payload).2.bridge = s.bridge := by
  unfold apply
  split <;> rfl

/-- **A row of events that are applied at once** patches every entry by the payloads about it. -/
theorem get?_applyEach {s : Sync} {b : Bridge} (hb : s.bridge = some b) {event : String}
    {rule : Rule} (hrule : b.rules.rule? event = some rule) (payloads : List Value) (key : Key) :
    (s.applyEach event payloads).store.get? key =
      (s.store.get? key).map (rule.patchAll · (rule.about key payloads)) := by
  induction payloads generalizing s with
  | nil => exact Option.map_id'.symm
  | cons p rest ih =>
    show ((s.apply none event p).2.applyEach event rest).store.get? key = _
    rw [ih ((bridge_apply s none event p).trans hb), get?_apply hb hrule]
    by_cases hp : rule.detailKey p = some key
    · rw [if_pos hp, Rule.about_cons_of_eq hp, Option.map_map]
      rfl
    · rw [if_neg hp, Rule.about_cons_of_ne hp]

end Sync
end LiveSync.Cache
