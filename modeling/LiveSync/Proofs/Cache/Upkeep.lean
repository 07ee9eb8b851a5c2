import LiveSync.Proofs.Cache.Coalescing

/-!
# What a bridge does to its store

Events are applied at once, or taken in and applied by a timer much later, and in between the
application does with its store what it likes.  Whenever the bridge touches the store it applies
one event by one rule.  It either sets the one entry that the event is about, which must be cached
at that moment, or it marks the entries of the rule stale and sets nothing.

* `Act`, `Sync.perform`, `Sync.after` — what can happen, and runs.
* `Rule.Built` — the rules that can be made; they name no entry twice (`Rule.Built.nodup`).
* `Applied` — what one application may do; `applied_applyRule` says that it does no more.
* `Upkeep`, `upkeep_after` — what the bridge does at any moment of any run.
-/

namespace LiveSync.Cache

open LiveSync.Json

/-! ## Rules as they are made -/

namespace Rule

/-- A rule that is made step by step from a blank one. -/
inductive Built : Rule → Prop where
  | blank : Built {}
  /-- One more entry is marked stale. -/
  | invalidating {r : Rule} (h : Built r) (key : Key) : Built (r.alsoInvalidate key)
  /-- The rule knows which entry a payload is about. -/
  | detailed {r : Rule} (h : Built r) (f : Value → Except Mishap (Option Key)) :
      Built { r with detail := some f }
  /-- The rule can merge. -/
  | merging {r : Rule} (h : Built r) (f : Value → Value → Except Mishap Value) :
      Built { r with merge := some f }
  /-- The rule has a window. -/
  | coalescing {r : Rule} (h : Built r) (window : Nat) : Built { r with coalesce := some window }

/-- The rules for the business events are among them. -/
theorem built_defaultRules : ∀ e ∈ defaultRules, e.2.Built := by
  have hentities : Built { invalidate := [Key.entities] } := .invalidating .blank Key.entities
  have hcomment : commentRule.Built := .detailed .blank _
  simp only [defaultRules, List.forall_mem_cons]
  refine ⟨hentities, ?updated, ?deleted, ?added, hcomment, hcomment, ?reaction, ?progress, ?rest⟩
  case updated => exact .merging (.detailed hentities _) _
  case deleted => exact .detailed hentities _
  case added => exact .merging hcomment _
  case reaction => exact .coalescing (.merging hcomment _) _
  case progress => exact .coalescing (.merging (.detailed .blank _) _) _
  case rest => simp

theorem nodup_alsoInvalidate {r : Rule} (h : r.invalidate.Nodup) (key : Key) :
    (r.alsoInvalidate key).invalidate.Nodup := by
  simp only [alsoInvalidate, List.contains_iff_mem]
  split
  · exact h
  · rename_i hmem
    refine List.nodup_append.2 ⟨h, by simp, fun k hk k' hk' hc => hmem ?_⟩
    rwa [← List.mem_singleton.1 hk', ← hc]

/-- A rule names no entry twice. -/
theorem Built.nodup {r : Rule} (h : r.Built) : r.invalidate.Nodup := by
  induction h with
  | blank => exact List.nodup_nil
  | invalidating _ key ih => exact nodup_alsoInvalidate ih key
  | detailed _ _ ih => exact ih
  | merging _ _ ih => exact ih
  | coalescing _ _ ih => exact ih

theorem mem_staleKeys (r : Rule) (detail : Option Key) (key : Key) :
    key ∈ r.staleKeys detail ↔ key ∈ r.invalidate ∨ detail = some key := by
  cases detail with
  | none => simp [staleKeys]
  | some k =>
    simp only [staleKeys, List.contains_iff_mem]
    split
    · rename_i hmem
      constructor
      · exact Or.inl
      · rintro (h | h)
        · exact h
        · rwa [← Option.some.inj h]
    · simp [eq_comm]

/-- Marking the entry of a payload stale as well is what a rule that names it too would do. -/
theorem staleKeys_some (r : Rule) (key : Key) :
    r.staleKeys (some key) = (r.alsoInvalidate key).invalidate := by
  simp only [staleKeys, alsoInvalidate]
  split <;> rfl

theorem nodup_staleKeys {r : Rule} (h : r.invalidate.Nodup) (detail : Option Key) :
    (r.staleKeys detail).Nodup := by
  cases detail with
  | none => exact h
  | some key =>
    rw [staleKeys_some]
    exact nodup_alsoInvalidate h key

end Rule

/-! ## One application -/

/-- When a rule changes an entry in place. -/
theorem merged?_eq_some_iff {rule : Rule} {store : Store} {payload : Value} {key : Key}
    {value : Value} :
    merged? rule store payload = some (key, value) ↔
      ∃ merge cached, rule.merge = some merge ∧ rule.detailKey payload = some key ∧
        store.get? key = some cached ∧ merge cached payload = .ok value := by
  constructor
  · intro h
    simp only [merged?] at h
    split at h
    · rename_i merge k hmerge hdetail
      split at h
      · rename_i cached hcached
        split at h
        · rename_i v hvalue
          obtain ⟨rfl, rfl⟩ := Prod.mk.inj (Option.some.inj h)
          exact ⟨merge, cached, hmerge, hdetail, hcached, hvalue⟩
        · contradiction
      · contradiction
    · contradiction
  · rintro ⟨merge, cached, hmerge, hdetail, hcached, hvalue⟩
    simp only [merged?, hmerge, hdetail, hcached, hvalue]

/-- What one application of a payload by a rule may do to a store. -/
inductive Applied (rule : Rule) (store : Store) (payload : Value) : List StoreOp → Prop where
  /-- The entry that the payload is about is cached and can be merged: it is set, once, and nothing
  is marked stale. -/
  | merged {merge : Value → Value → Except Mishap Value} {key : Key} {cached value : Value}
      (hmerge : rule.merge = some merge) (hdetail : rule.detailKey payload = some key)
      (hcached : store.get? key = some cached) (hvalue : merge cached payload = .ok value) :
      Applied rule store payload [.set key value]
  /-- There is nothing to merge with, or it goes wrong: nothing is set, and the entries that the
  rule names and the one that the payload is about are marked stale, each once. -/
  | stale {keys : List Key}
      (hfails : ∀ merge key cached value, rule.merge = some merge →
        rule.detailKey payload = some key → store.get? key = some cached →
        merge cached payload ≠ .ok value)
      (honce : keys.Nodup)
      (hkeys : ∀ key, key ∈ keys ↔ key ∈ rule.invalidate ∨ rule.detailKey payload = some key) :
      Applied rule store payload (keys.map .markStale)

theorem applied_applyRule {rule : Rule} (h : rule.invalidate.Nodup) (store : Store)
    (payload : Value) : Applied rule store payload (applyRule rule store payload).2 := by
  simp only [applyRule]
  cases hm : merged? rule store payload with
  | some changed =>
    obtain ⟨key, value⟩ := changed
    obtain ⟨merge, cached, hmerge, hdetail, hcached, hvalue⟩ := merged?_eq_some_iff.1 hm
    exact .merged hmerge hdetail hcached hvalue
  | none =>
    refine .stale ?_ (Rule.nodup_staleKeys h _) (Rule.mem_staleKeys rule _)
    intro merge key cached value hmerge hdetail hcached hvalue
    have hsome := merged?_eq_some_iff.2 ⟨merge, cached, hmerge, hdetail, hcached, hvalue⟩
    rw [hm] at hsome
    contradiction

namespace Applied

variable {rule : Rule} {store : Store} {payload : Value} {ops : List StoreOp}

/-- What is set is cached. -/
theorem present (h : Applied rule store payload ops) {key : Key} {value : Value}
    (hset : .set key value ∈ ops) : (store.get? key).isSome := by
  cases h with
  | merged _ _ hcached _ =>
    obtain ⟨rfl, -⟩ := StoreOp.set.inj (List.mem_singleton.1 hset)
    rw [hcached]
    rfl
  | stale _ _ _ => simp at hset

/-- No entry comes or goes. -/
theorem isSome_get? (h : Applied rule store payload ops) (key : Key) :
    ((store.applyAll ops).get? key).isSome = (store.get? key).isSome := by
  cases h with
  | @merged merge k cached value _ _ hcached _ =>
    show ((store.set k value).get? key).isSome = _
    rw [Store.get?_set]
    by_cases hk : k = key
    · rw [if_pos hk, ← hk, hcached]
      rfl
    · rw [if_neg hk]
  | stale _ _ _ => rw [Store.applyAll_markStale]

/-- A merge that goes wrong leaves the entry as it is, and the entry is marked stale. -/
theorem failed (h : Applied rule store payload ops) {merge : Value → Value → Except Mishap Value}
    {key : Key} {cached : Value} {mishap : Mishap} (hmerge : rule.merge = some merge)
    (hdetail : rule.detailKey payload = some key) (hcached : store.get? key = some cached)
    (hwrong : merge cached payload = .error mishap) :
    (store.applyAll ops).get? key = some cached ∧ .markStale key ∈ ops := by
  cases h with
  | merged hmerge' hdetail' hcached' hvalue =>
    obtain rfl := Option.some.inj (hmerge.symm.trans hmerge')
    obtain rfl := Option.some.inj (hdetail.symm.trans hdetail')
    obtain rfl := Option.some.inj (hcached.symm.trans hcached')
    rw [hwrong] at hvalue
    contradiction
  | stale _ _ hkeys =>
    rw [Store.applyAll_markStale]
    exact ⟨hcached, List.mem_map_of_mem ((hkeys key).2 (.inr hdetail))⟩

end Applied

/-! ## Runs -/

/-- What happens to a bridge or to its store. -/
inductive Act where
  /-- An event is applied at once. -/
  | apply (time : Option Nat) (event : String) (payload : Value)
  /-- An event is taken in; `order` is the place of a timer that is armed then. -/
  | handle (now order : Nat) (event : String) (payload : Value)
  /-- A timer fires. -/
  | fire (now : Nat) (timer : BurstTimer)
  /-- The payloads that wait are forgotten. -/
  | detach
  /-- The bridge is dropped. -/
  | drop
  /-- The application changes its store, in whatever way. -/
  | alter (change : Store → Store)

namespace Act

/-- The application seeds an entry. -/
def seed (key : Key) (value : Value) : Act :=
  .alter (·.set key value)

/-- The application evicts an entry. -/
def evict (key : Key) : Act :=
  .alter fun store => (store.evict key).2

/-- When it happens, if a clock is running. -/
def time? : Act → Option Nat
  | apply time _ _ => time
  | handle now _ _ _ => some now
  | fire now _ => some now
  | _ => none

/-- What the application does to its store. -/
def alteration : Act → Store → Store
  | alter change, store => change store
  | _, store => store

end Act

namespace Bridge

/-- The rule and the payload by which something that happens touches the store: those of an event
that is applied at once, of one that is taken in by a rule without a window, or what waits for a
timer that fires. -/
def applied? (b : Bridge) : Act → Option (Rule × Value)
  | .apply _ event payload => (b.rules.rule? event).map (·, payload)
  | .handle _ _ event payload =>
    ((b.rules.rule? event).filter fun rule => rule.window? = none).map (·, payload)
  | .fire _ timer =>
    (b.pending? timer.slot).bind fun payload =>
      (b.rules.rule? timer.slot.event).map (·, payload)
  | _ => none

/-- What the bridge does to a store when something happens. -/
def opsOf (b : Bridge) (store : Store) (act : Act) : List StoreOp :=
  match b.applied? act with
  | none => []
  | some (rule, payload) => (applyRule rule store payload).2

variable (b : Bridge) (store : Store)

theorem ops_apply (time : Option Nat) (event : String) (payload : Value) :
    (b.apply store event payload).2 = b.opsOf store (.apply time event payload) := by
  simp only [apply, opsOf, applied?]
  cases b.rules.rule? event <;> rfl

theorem ops_handle (now order : Nat) (event : String) (payload : Value) :
    (b.handle store event payload now order).1 =
      b.opsOf store (.handle now order event payload) := by
  simp only [handle, opsOf, applied?]
  cases b.rules.rule? event with
  | none => rfl
  | some rule =>
    cases hw : rule.window? with
    | none => simp [Option.filter, hw]
    | some window =>
      simp only [Option.filter, hw]
      split <;> rfl

theorem ops_fire (now : Nat) (timer : BurstTimer) :
    (b.fire store timer).1 = b.opsOf store (.fire now timer) := by
  simp only [fire, opsOf, applied?]
  cases b.pending? timer.slot with
  | none => rfl
  | some payload => exact ops_apply b store none timer.slot.event payload

theorem rules_handle (event : String) (payload : Value) (now order : Nat) :
    (b.handle store event payload now order).2.rules = b.rules := by
  simp only [handle]
  split
  · rfl
  · split
    · rfl
    · split <;> rfl

end Bridge

namespace Sync

/-- A store that is kept in sync by some rules. -/
def governed (rules : RuleTable) (store : Store) : Sync :=
  { store := store, bridge := some { rules := rules } }

/-- Let something happen. -/
def perform (s : Sync) : Act → Sync
  | .apply time event payload => (s.apply time event payload).2
  | .handle now order event payload => s.handle now order event payload
  | .fire now timer => s.fire now timer
  | .detach => s.detach
  | .drop => s.dropBridge
  | .alter change => { s with store := change s.store }

/-- Let several things happen. -/
def after (s : Sync) (acts : List Act) : Sync :=
  acts.foldl perform s

theorem after_append (s : Sync) (a b : List Act) : s.after (a ++ b) = (s.after a).after b :=
  List.foldl_append

/-- The rule and the payload by which the store is touched; a bridge that was dropped has none. -/
def applied? (s : Sync) (act : Act) : Option (Rule × Value) :=
  s.bridge.bind fun b => b.applied? act

/-- What the bridge does to the store when something happens. -/
def opsOf (s : Sync) (act : Act) : List StoreOp :=
  match s.applied? act with
  | none => []
  | some (rule, payload) => (applyRule rule s.store payload).2

/-- **What happens is recorded and carried out**, and it is all that the bridge does. -/
theorem perform_eq (s : Sync) (act : Act) :
    (s.perform act).changes = s.changes ++ (s.opsOf act).map (⟨act.time?, ·⟩) ∧
      (s.perform act).store = (act.alteration s.store).applyAll (s.opsOf act) := by
  cases hb : s.bridge with
  | none =>
    have hops : s.opsOf act = [] := by simp [opsOf, applied?, hb]
    rw [hops]
    cases act <;> simp [perform, apply, handle, fire, detach, dropBridge, hb, Act.alteration,
      Store.applyAll]
  | some b =>
    have hops : s.opsOf act = b.opsOf s.store act := by simp [opsOf, applied?, Bridge.opsOf, hb]
    rw [hops]
    cases act with
    | apply time event payload =>
      rw [← Bridge.ops_apply]
      simp only [perform, apply, hb]
      exact ⟨rfl, rfl⟩
    | handle now order event payload =>
      rw [← Bridge.ops_handle]
      simp only [perform, handle, hb]
      exact ⟨rfl, rfl⟩
    | fire now timer =>
      rw [← Bridge.ops_fire]
      simp only [perform, fire, hb]
      exact ⟨rfl, rfl⟩
    | detach => exact ⟨(List.append_nil _).symm, rfl⟩
    | drop => exact ⟨(List.append_nil _).symm, rfl⟩
    | alter change => exact ⟨(List.append_nil _).symm, rfl⟩

/-- Nothing that happens changes the rules. -/
theorem rules_perform {s : Sync} {act : Act} {b' : Bridge} (h : (s.perform act).bridge = some b') :
    ∃ b, s.bridge = some b ∧ b'.rules = b.rules := by
  cases hb : s.bridge with
  | none => cases act <;> simp [perform, apply, handle, fire, detach, dropBridge, hb] at h
  | some b =>
    refine ⟨b, rfl, ?_⟩
    cases act with
    | apply time event payload =>
      rw [perform, bridge_apply, hb] at h
      rw [← Option.some.inj h]
    | handle now order event payload =>
      simp only [perform, handle, hb] at h
      rw [← Option.some.inj h]
      exact b.rules_handle s.store event payload now order
    | fire now timer =>
      simp only [perform, fire, hb] at h
      rw [← Option.some.inj h]
      exact b.rules_fire s.store timer
    | detach =>
      simp only [perform, detach, hb] at h
      rw [← Option.some.inj h]
      rfl
    | drop => simp [perform, dropBridge] at h
    | alter change =>
      simp only [perform, hb] at h
      rw [← Option.some.inj h]

theorem rules_after {s : Sync} {acts : List Act} {b' : Bridge}
    (h : (s.after acts).bridge = some b') : ∃ b, s.bridge = some b ∧ b'.rules = b.rules := by
  induction acts generalizing s with
  | nil => exact ⟨b', h, rfl⟩
  | cons act rest ih =>
    obtain ⟨b₁, hb₁, hrest⟩ := @ih (s.perform act) h
    obtain ⟨b, hb, hfirst⟩ := rules_perform hb₁
    exact ⟨b, hb, hrest.trans hfirst⟩

/-- What is applied is applied by a rule of the table. -/
theorem mem_rules_of_applied? {s : Sync} {b : Bridge} (hb : s.bridge = some b) {act : Act}
    {rule : Rule} {payload : Value} (h : s.applied? act = some (rule, payload)) :
    ∃ event, (event, rule) ∈ b.rules := by
  have hfind : ∃ event, b.rules.rule? event = some rule := by
    simp only [applied?, hb, Option.bind_some] at h
    cases act with
    | apply time event p =>
      obtain ⟨r, hr, hrp⟩ := Option.map_eq_some_iff.1 h
      exact ⟨event, by rw [hr, (Prod.mk.inj hrp).1]⟩
    | handle now order event p =>
      obtain ⟨r, hr, hrp⟩ := Option.map_eq_some_iff.1 h
      exact ⟨event, by rw [(Option.filter_eq_some_iff.1 hr).1, (Prod.mk.inj hrp).1]⟩
    | fire now timer =>
      obtain ⟨p, hp, hrule⟩ := Option.bind_eq_some_iff.1 h
      obtain ⟨r, hr, hrp⟩ := Option.map_eq_some_iff.1 hrule
      exact ⟨timer.slot.event, by rw [hr, (Prod.mk.inj hrp).1]⟩
    | detach => contradiction
    | drop => contradiction
    | alter change => contradiction
  obtain ⟨event, hrule⟩ := hfind
  exact ⟨event, RuleTable.mem_of_rule? hrule⟩

end Sync

/-! ## The store at any moment -/

/-- What a bridge does to its store when something happens is decided by the rule that applies. -/
structure Upkeep (s : Sync) (act : Act) (ops : List StoreOp) : Prop where
  /-- The record tells of what is done to the store. -/
  recorded : (s.perform act).changes = s.changes ++ ops.map (⟨act.time?, ·⟩)
  /-- Apart from what the application does, no more is done. -/
  stored : (s.perform act).store = (act.alteration s.store).applyAll ops
  /-- What is set is cached at that moment. -/
  present : ∀ key value, .set key value ∈ ops → (s.store.get? key).isSome
  /-- No entry is created, and none is removed, but by the application. -/
  kept : ∀ key, ((s.perform act).store.get? key).isSome =
    ((act.alteration s.store).get? key).isSome
  /-- Where no rule applies, nothing is done. -/
  idle : s.applied? act = none → ops = []
  /-- A rule that applies either sets one entry or marks its entries stale. -/
  applied : ∀ rule payload, s.applied? act = some (rule, payload) →
    Applied rule s.store payload ops
  /-- A merge that goes wrong leaves the entry as it is and marks it stale. -/
  failed : ∀ rule payload merge key cached mishap, s.applied? act = some (rule, payload) →
    rule.merge = some merge → rule.detailKey payload = some key →
    s.store.get? key = some cached → merge cached payload = .error mishap →
    (s.perform act).store.get? key = some cached ∧ .markStale key ∈ ops

/-- Where the application does something, no rule applies. -/
theorem Sync.alteration_eq_of_applied? {s : Sync} {act : Act} {x : Rule × Value}
    (h : s.applied? act = some x) (store : Store) : act.alteration store = store := by
  cases act with
  | alter change =>
    obtain ⟨b, -, hb⟩ := Option.bind_eq_some_iff.1 h
    contradiction
  | _ => rfl

/-- **What a bridge does to its store.**  Take any rules and any store, and any run of events that
are applied or taken in, of timers that fire, of detaching and dropping the bridge, and of changes
that the application makes to its store.  Whatever happens next, the bridge sets no entry that is
not cached at that moment.  Where it applies an event by a rule, it either sets the entry that the
event is about, once, and marks nothing stale, or it sets nothing and marks stale the entries of the
rule and the one that the event is about, each once; the latter if the merge goes wrong, which
leaves the cached value as it was. -/
theorem upkeep_after {rules : RuleTable} (hrules : ∀ e ∈ rules, e.2.Built) (store : Store)
    (before : List Act) (act : Act) :
    ∃ ops, Upkeep ((Sync.governed rules store).after before) act ops := by
  generalize hs : (Sync.governed rules store).after before = s
  obtain ⟨hrecorded, hstored⟩ := s.perform_eq act
  refine ⟨s.opsOf act, ?_⟩
  cases happ : s.applied? act with
  | none =>
    have hops : s.opsOf act = [] := by simp only [Sync.opsOf, happ]
    rw [hops] at hrecorded hstored ⊢
    exact {
      recorded := hrecorded
      stored := hstored
      present := by simp
      kept := fun key => by rw [hstored]; rfl
      idle := fun _ => rfl
      applied := fun rule payload h => by rw [happ] at h; contradiction
      failed := fun rule payload _ _ _ _ h => by rw [happ] at h; contradiction }
  | some x =>
    obtain ⟨rule, payload⟩ := x
    have hnodup : rule.invalidate.Nodup := by
      cases hb : s.bridge with
      | none => simp [Sync.applied?, hb] at happ
      | some b =>
        obtain ⟨b₀, hb₀, hsame⟩ := Sync.rules_after (hs ▸ hb)
        obtain ⟨event, hmem⟩ := Sync.mem_rules_of_applied? hb happ
        rw [hsame, ← Option.some.inj hb₀] at hmem
        exact (hrules _ hmem).nodup
    have happlied : Applied rule s.store payload (s.opsOf act) := by
      simp only [Sync.opsOf, happ]
      exact applied_applyRule hnodup s.store payload
    have halt := Sync.alteration_eq_of_applied? happ s.store
    rw [halt] at hstored
    exact {
      recorded := hrecorded
      stored := by rw [halt, hstored]
      present := fun key value hset => happlied.present hset
      kept := fun key => by rw [halt, hstored, happlied.isSome_get?]
      idle := fun h => by rw [happ] at h; contradiction
      applied := fun r p h => by
        obtain ⟨rfl, rfl⟩ := Prod.mk.inj (Option.some.inj (happ.symm.trans h))
        exact happlied
      failed := fun r p merge key cached mishap h hmerge hdetail hcached hwrong => by
        obtain ⟨rfl, rfl⟩ := Prod.mk.inj (Option.some.inj (happ.symm.trans h))
        rw [hstored]
        exact happlied.failed hmerge hdetail hcached hwrong }

/-- Progress of a job waits when its entry is evicted.  The timer does not bring the entry back. -/
theorem upkeep_after_evicted :
    let key := Key.job "J-1"
    let progress : Value := .object [("done", .bool true), ("jobId", .string "J-1")]
    let timer : BurstTimer := ⟨progressWindow, 0, ⟨EventName.jobProgress, some key⟩⟩
    let s := (Sync.governed defaultRules {}).after
      [.seed key (.object []), .handle 0 0 EventName.jobProgress progress, .evict key]
    (∀ e ∈ defaultRules, e.2.Built) ∧
      (∃ ops, Upkeep s (.fire progressWindow timer) ops) ∧
      (s.perform (.fire progressWindow timer)).changes =
        [⟨some progressWindow, .markStale key⟩] ∧
      (s.perform (.fire progressWindow timer)).store.get? key = none :=
  ⟨Rule.built_defaultRules, upkeep_after Rule.built_defaultRules _ _ _, by decide +kernel,
    by decide +kernel⟩

end LiveSync.Cache
