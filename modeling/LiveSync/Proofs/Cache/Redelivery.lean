import LiveSync.Proofs.Cache.Threads
import LiveSync.Proofs.Cache.Upkeep
import LiveSync.Proofs.Json.Values

/-!
# Events that come twice

A server may deliver an event a second time.  Merging a payload into what it was merged into before
changes nothing, and where merging fails it fails again: so the second delivery has the outcome of
the first one and leaves the cache as it was.

* `Rule.Settles` — merging a payload again gives the same value.
* `applyRule_again` — a rule that settles does the same to the store again, which changes nothing.
* `shallowMerge_again` … `mergeReactions_again` — the four merges settle.
* `settles_defaultRules` — so do the rules for the business events.
* `Sync.redelivery_harmless` — an event that comes twice.
-/

namespace LiveSync.Cache

open LiveSync.Json

/-! ## Rules that settle -/

/-- Merging a payload into what it was merged into before gives the same value. -/
def Rule.Settles (rule : Rule) (payload : Value) : Prop :=
  ∀ merge cached value, rule.merge = some merge → merge cached payload = .ok value →
    merge value payload = .ok value

theorem settles_of_no_merge {rule : Rule} (h : rule.merge = none) (payload : Value) :
    rule.Settles payload := by
  intro merge _ _ hmerge
  rw [h] at hmerge
  contradiction

theorem settles_of_merging {rule : Rule} {f : Value → Value → Except Fault Value}
    (hmerge : rule.merge = merging f) {payload : Value}
    (h : ∀ cached value, f cached payload = .ok value → f value payload = .ok value) :
    rule.Settles payload := by
  intro merge cached value hsome hvalue
  obtain rfl := Option.some.inj (hsome.symm.trans hmerge)
  dsimp only at hvalue ⊢
  cases hfirst : f cached payload with
  | error fault => rw [hfirst] at hvalue; contradiction
  | ok first =>
    rw [hfirst] at hvalue
    obtain rfl := Except.ok.inj hvalue
    rw [h cached first hfirst]

/-- **A rule that settles does the same again**, and that changes no value. -/
theorem applyRule_again {rule : Rule} {payload : Value} (h : rule.Settles payload)
    (store : Store) :
    let ops := (applyRule rule store payload).2
    applyRule rule (store.applyAll ops) payload = applyRule rule store payload ∧
      ∀ key, ((store.applyAll ops).applyAll ops).get? key = (store.applyAll ops).get? key := by
  cases hm : merged? rule store payload with
  | some changed =>
    obtain ⟨key, value⟩ := changed
    obtain ⟨merge, cached, hmerge, hdetail, -, hvalue⟩ := merged?_eq_some_iff.1 hm
    have honce : applyRule rule store payload = (.merged key, [.set key value]) := by
      simp only [applyRule, hm]
    have hset : (store.set key value).get? key = some value := by
      rw [Store.get?_set, if_pos rfl]
    have hagain : merged? rule (store.set key value) payload = some (key, value) :=
      merged?_eq_some_iff.2
        ⟨merge, value, hmerge, hdetail, hset, h merge cached value hmerge hvalue⟩
    rw [honce]
    constructor
    · show applyRule rule (store.set key value) payload = _
      simp only [applyRule, hagain]
    · intro other
      show ((store.set key value).set key value).get? other = (store.set key value).get? other
      rw [Store.get?_set, Store.get?_set]
      split <;> rfl
  | none =>
    have honce : applyRule rule store payload =
        (.invalidated (rule.staleKeys (rule.detailKey payload)),
          (rule.staleKeys (rule.detailKey payload)).map .markStale) := by
      simp only [applyRule, hm]
    rw [honce]
    dsimp only
    rw [Store.applyAll_markStale, Store.applyAll_markStale]
    exact ⟨honce, fun _ => rfl⟩

/-! ## The merges -/

theorem shallowMerge_again {cached patch value : Value}
    (h : shallowMerge cached patch = .ok value) : shallowMerge value patch = .ok value := by
  unfold shallowMerge at h ⊢
  split at h
  · rename_i base fields _ hfields
    obtain rfl := Except.ok.inj h
    rw [hfields]
    exact congrArg (Except.ok ∘ Value.object) (Fields.insertAll_insertAll base fields)
  · contradiction

theorem mergeEntity_again {cached payload value : Value}
    (h : mergeEntity cached payload = .ok value) : mergeEntity value payload = .ok value := by
  unfold mergeEntity at h ⊢
  split at h
  · exact shallowMerge_again h
  · contradiction

/-- A comment with an id is known once it was added. -/
theorem withComment_again (thread : List Value) {comment : Value}
    (hid : (comment.get? "id").isSome) :
    withComment (withComment thread comment) comment = withComment thread comment := by
  have hknown : knows (withComment thread comment) comment = true := by
    by_cases h : knows thread comment = true
    · rw [withComment, if_pos h]
      exact h
    · obtain ⟨id, hsome⟩ := Option.isSome_iff_exists.1 hid
      rw [withComment, if_neg h]
      simp [knows, hsome, sameId, Value.same_self]
  rw [withComment.eq_1 (withComment thread comment), if_pos hknown]

theorem mergeComment_again {cached payload value : Value}
    (hid : ∀ comment, payload.get? "comment" = some comment → comment.asObject?.isSome →
      (comment.get? "id").isSome)
    (h : mergeComment cached payload = .ok value) : mergeComment value payload = .ok value := by
  obtain ⟨thread, comment, -, hcomment, hobject, rfl⟩ := thread_of_mergeComment h
  rw [mergeComment_thread hcomment hobject, withComment_again thread (hid comment hcomment hobject)]

/-- Reactions that are replaced do not change which comment they are for. -/
theorem mergeReactions_again {cached payload value : Value}
    (h : mergeReactions cached payload = .ok value) : mergeReactions value payload = .ok value := by
  cases hthread : cached.asArray? with
  | none =>
    obtain ⟨fault, hfault⟩ := mergeReactions_of_not_thread hthread payload
    rw [hfault] at h
    contradiction
  | some thread =>
    obtain rfl : cached = .array thread := by
      cases cached with
      | array items => exact congrArg Value.array (Option.some.inj hthread)
      | _ => contradiction
    rw [mergeReactions_thread] at h
    cases hplace : changedPlace? thread payload with
    | none => rw [hplace] at h; contradiction
    | some i =>
      rw [hplace] at h
      obtain rfl := Except.ok.inj h
      have hpatch : patchThread thread payload =
          thread.modify i (withReactions (some (sentReactions payload))) := by
        rw [patchThread, hplace]
      have hagain : changedPlace? (patchThread thread payload) payload = some i :=
        (changedPlace?_patchThread thread payload payload).trans hplace
      have htwice : withReactions (some (sentReactions payload)) ∘
          withReactions (some (sentReactions payload)) =
          withReactions (some (sentReactions payload)) :=
        funext (withReactions_withReactions (some (sentReactions payload)) _)
      rw [hpatch] at hagain
      rw [mergeReactions_thread, hagain]
      dsimp only
      rw [List.modify_modify_eq, htwice]

/-! ## The rules for the business events -/

/-- A payload that adds a comment names it: the comment has an id. -/
def Named (event : String) (payload : Value) : Prop :=
  event = EventName.commentAdded → ∀ comment, payload.get? "comment" = some comment →
    comment.asObject?.isSome → (comment.get? "id").isSome

/-- **The rules for the business events settle**, if new comments have an id. -/
theorem settles_defaultRules : ∀ e ∈ defaultRules, ∀ {payload : Value}, Named e.1 payload →
    e.2.Settles payload := by
  simp only [defaultRules, List.forall_mem_cons]
  refine ⟨?created, ?updated, ?deleted, ?added, ?commentUpdated, ?commentDeleted, ?reaction,
    ?progress, ?rest⟩
  case created => exact fun _ => settles_of_no_merge rfl _
  case updated => exact fun _ => settles_of_merging rfl fun _ _ => mergeEntity_again
  case deleted => exact fun _ => settles_of_no_merge rfl _
  case added => exact fun h => settles_of_merging rfl fun _ _ => mergeComment_again (h rfl)
  case commentUpdated => exact fun _ => settles_of_no_merge rfl _
  case commentDeleted => exact fun _ => settles_of_no_merge rfl _
  case reaction => exact fun _ => settles_of_merging rfl fun _ _ => mergeReactions_again
  case progress => exact fun _ => settles_of_merging rfl fun _ _ => shallowMerge_again
  case rest => exact fun _ he => absurd he List.not_mem_nil

/-! ## A second delivery -/

namespace Bridge

/-- An event that comes again does the same to the store again, and that changes no value. -/
theorem apply_again {b : Bridge} (hrules : b.rules = defaultRules) {event : String}
    {payload : Value} (h : Named event payload) (store : Store) :
    let ops := (b.apply store event payload).2
    b.apply (store.applyAll ops) event payload = b.apply store event payload ∧
      ∀ key, ((store.applyAll ops).applyAll ops).get? key = (store.applyAll ops).get? key := by
  unfold apply
  cases hrule : b.rules.rule? event with
  | none => exact ⟨rfl, fun _ => rfl⟩
  | some rule =>
    have hmem := RuleTable.mem_of_rule? hrule
    rw [hrules] at hmem
    exact applyRule_again (settles_defaultRules _ hmem h) store

end Bridge

namespace Sync

/-- The entry was marked stale. -/
def MarkedStale (s : Sync) (key : Key) : Prop :=
  ∃ c ∈ s.changes, c.op = .markStale key

theorem markedStale_carryOut (s : Sync) (time : Option Nat) (ops : List StoreOp) (key : Key) :
    (s.carryOut time ops).MarkedStale key ↔ s.MarkedStale key ∨ .markStale key ∈ ops := by
  constructor
  · rintro ⟨c, hc, hop⟩
    rcases List.mem_append.1 hc with hc | hc
    · exact .inl ⟨c, hc, hop⟩
    · obtain ⟨op, hmem, rfl⟩ := List.mem_map.1 hc
      exact .inr (hop ▸ hmem)
  · rintro (⟨c, hc, hop⟩ | hmem)
    · exact ⟨c, List.mem_append_left _ hc, hop⟩
    · exact ⟨_, List.mem_append_right _ (List.mem_map_of_mem hmem), rfl⟩

/-- **An event may come twice.**  By the rules for the business events, applying an event a second
time, directly after the first, has the same outcome, if a comment that it adds has an id.  It does
the same to the store again, so that all values and the entries that are marked stale are as they
were after the first time. -/
theorem redelivery_harmless {s : Sync} {b : Bridge} (hb : s.bridge = some b)
    (hrules : b.rules = defaultRules) {event : String} {payload : Value}
    (h : Named event payload) (time time' : Option Nat) :
    let once := s.apply time event payload
    let twice := once.2.apply time' event payload
    twice.1 = once.1 ∧
      (∀ key, twice.2.store.get? key = once.2.store.get? key) ∧
      (∀ key, twice.2.MarkedStale key ↔ once.2.MarkedStale key) ∧
      ∃ ops : List StoreOp, once.2.changes = s.changes ++ ops.map (⟨time, ·⟩) ∧
        twice.2.changes = once.2.changes ++ ops.map (⟨time', ·⟩) := by
  intro once twice
  obtain ⟨hsame, hstore⟩ := Bridge.apply_again hrules h s.store
  have honce : once = (some (b.apply s.store event payload).1,
      s.carryOut time (b.apply s.store event payload).2) := by
    simp only [once, apply, hb]
  have htwice : twice = (some (b.apply s.store event payload).1,
      once.2.carryOut time' (b.apply s.store event payload).2) := by
    have hagain : b.apply once.2.store event payload = b.apply s.store event payload := by
      rw [honce]
      exact hsame
    have hbridge : once.2.bridge = some b := (bridge_apply s time event payload).trans hb
    simp only [twice, apply, hbridge, hagain]
  refine ⟨by rw [htwice, honce], fun key => ?_, fun key => ?_, _, by rw [honce]; rfl,
    by rw [htwice]; rfl⟩
  · rw [htwice, honce]
    exact hstore key
  · rw [htwice, markedStale_carryOut, honce, markedStale_carryOut, or_assoc, or_self]

/-- A comment that comes twice to a thread in which it is new. -/
theorem redelivery_harmless_comment :
    let key := Key.comments "X-1"
    let comment : Value := .object [("id", .string "c-2")]
    let payload : Value := .object [("comment", comment), ("entityId", .string "X-1")]
    let s := start ⟨[(key, .array [.object [("id", .string "c-1")]])]⟩
    let once := s.apply none EventName.commentAdded payload
    let twice := once.2.apply none EventName.commentAdded payload
    Named EventName.commentAdded payload ∧ once.1 = some (.merged key) ∧
      once.2.store.get? key = some (.array [.object [("id", .string "c-1")], comment]) ∧
      twice.1 = once.1 ∧ twice.2.store.get? key = once.2.store.get? key := by
  intro key comment payload s once twice
  have hcomment : payload.get? "comment" = some comment := by decide +kernel
  have hnamed : Named EventName.commentAdded payload := by
    rintro - c hc -
    obtain rfl := Option.some.inj (hcomment.symm.trans hc)
    decide +kernel
  obtain ⟨houtcome, hstore, -⟩ := redelivery_harmless rfl rfl hnamed none none (s := s)
  exact ⟨hnamed, by decide +kernel, by decide +kernel, houtcome, hstore key⟩

end Sync
end LiveSync.Cache
