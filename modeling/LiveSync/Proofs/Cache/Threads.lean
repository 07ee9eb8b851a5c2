import LiveSync.Proofs.Cache.Bursts
import Mathlib.Data.List.Forall2

/-!
# Threads of comments

Two of the rules for the business events change a thread: a new comment is appended unless its id is
known, and reactions are replaced.  Whatever events come, no comment is lost or moved, none but its
reactions change, and no id comes twice.

* `SameButReactions` — a comment as it may become.
* `Distinct` — no two comments of a thread have one id.
* `Grows` — a thread as it may become, by comments that are offered; `Grows.trans`.
* `tends_defaultRules` — one event, rule by rule.
* `Sync.thread_grows` — a row of events.
-/

namespace LiveSync.Cache

open LiveSync.Json

/-! ## One comment -/

/-- The second value is the first one, with other reactions at most. -/
def SameButReactions (before after : Value) : Prop :=
  ∃ reactions, after = withReactions reactions before

/-- Other reactions leave the other fields as they are. -/
theorem get?_withReactions {name : String} (h : name ≠ "reactions") (reactions : Option Value)
    (comment : Value) : (withReactions reactions comment).get? name = comment.get? name := by
  cases reactions with
  | none => rfl
  | some r =>
    cases comment with
    | object fields =>
      show Fields.get? (Fields.insert fields "reactions" r) name = Fields.get? fields name
      rw [Fields.get?_insert, if_neg h.symm]
    | _ => rfl

namespace SameButReactions

theorem refl (comment : Value) : SameButReactions comment comment :=
  ⟨none, rfl⟩

theorem trans {a b c : Value} (h : SameButReactions a b) (h' : SameButReactions b c) :
    SameButReactions a c := by
  obtain ⟨r, rfl⟩ := h
  obtain ⟨r', rfl⟩ := h'
  cases r with
  | none => exact ⟨r', rfl⟩
  | some r => exact ⟨r'.or (some r), withReactions_withReactions r' r a⟩

theorem get?_eq {a b : Value} (h : SameButReactions a b) {name : String}
    (hname : name ≠ "reactions") : b.get? name = a.get? name := by
  obtain ⟨r, rfl⟩ := h
  exact get?_withReactions hname r a

end SameButReactions

/-! ## Ids -/

/-- The ids in a thread, of the elements that have one. -/
def ids (thread : List Value) : List Value :=
  thread.filterMap (·.get? "id")

/-- No two elements of a thread have the same id. -/
def Distinct (thread : List Value) : Prop :=
  (ids thread).Pairwise fun a b => a.same b = false

/-- Is there an element with the id of a comment?  A comment without an id is not known. -/
def knows (thread : List Value) (comment : Value) : Bool :=
  (comment.get? "id").isSome && thread.any fun c => sameId (c.get? "id") (comment.get? "id")

/-- A comment that is not known has an id of its own. -/
theorem distinct_append {thread : List Value} (h : Distinct thread) {comment : Value}
    (hnew : knows thread comment = false) : Distinct (thread ++ [comment]) := by
  unfold Distinct ids
  rw [List.filterMap_append]
  cases hid : comment.get? "id" with
  | none =>
    have hnone : [comment].filterMap (·.get? "id") = [] := by simp [hid]
    rw [hnone, List.append_nil]
    exact h
  | some id =>
    have hone : [comment].filterMap (·.get? "id") = [id] := by simp [hid]
    rw [hone]
    refine List.pairwise_append.2 ⟨h, List.pairwise_singleton .., fun other hother id' hid' => ?_⟩
    obtain rfl := List.mem_singleton.1 hid'
    obtain ⟨c, hc, hcid⟩ := List.mem_filterMap.1 hother
    simp only [knows, hid, Option.isSome_some, Bool.true_and, List.any_eq_false] at hnew
    have hdiffers := hnew c hc
    rw [hcid] at hdiffers
    exact eq_false_of_ne_true hdiffers

/-! ## Threads that grow -/

theorem forall₂_trans {as bs cs : List Value} (h : List.Forall₂ SameButReactions as bs)
    (h' : List.Forall₂ SameButReactions bs cs) : List.Forall₂ SameButReactions as cs := by
  induction h generalizing cs with
  | nil => exact h'
  | cons hab _ ih =>
    cases h' with
    | cons hbc hrest => exact .cons (hab.trans hbc) (ih hrest)

theorem forall₂_refl (thread : List Value) : List.Forall₂ SameButReactions thread thread :=
  List.forall₂_same.2 fun c _ => .refl c

/-- The ids stay. -/
theorem ids_eq_of_forall₂ {as bs : List Value} (h : List.Forall₂ SameButReactions as bs) :
    ids bs = ids as := by
  induction h with
  | nil => rfl
  | cons hab _ ih =>
    have hid := hab.get?_eq (by decide : "id" ≠ "reactions")
    simp only [ids, List.filterMap_cons, hid] at ih ⊢
    rw [ih]

/-- A thread as it may become: the elements stay at their places, some of the comments that are
offered follow them in order, and of each of them no more than the reactions changes. -/
def Grows (offered thread thread' : List Value) : Prop :=
  ∃ added, added.Sublist offered ∧ List.Forall₂ SameButReactions (thread ++ added) thread'

namespace Grows

theorem refl (offered thread : List Value) : Grows offered thread thread :=
  ⟨[], List.nil_sublist _, by rw [List.append_nil]; exact forall₂_refl thread⟩

/-- The reactions of one element change. -/
theorem react (offered thread : List Value) (i : Nat) (r : Value) :
    Grows offered thread (thread.modify i (withReactions (some r))) := by
  refine ⟨[], List.nil_sublist _, ?_⟩
  rw [List.append_nil]
  induction thread generalizing i with
  | nil => rw [List.modify_nil]; exact .nil
  | cons c rest ih =>
    cases i with
    | zero => rw [List.modify_zero_cons]; exact .cons ⟨some r, rfl⟩ (forall₂_refl rest)
    | succ i => rw [List.modify_succ_cons]; exact .cons (.refl c) (ih i)

/-- A comment that is offered is appended. -/
theorem append (thread : List Value) (comment : Value) :
    Grows [comment] thread (thread ++ [comment]) :=
  ⟨[comment], List.Sublist.refl _, forall₂_refl _⟩

theorem trans {offered offered' a b c : List Value} (h : Grows offered a b)
    (h' : Grows offered' b c) : Grows (offered ++ offered') a c := by
  obtain ⟨added, hadded, hab⟩ := h
  obtain ⟨added', hadded', hbc⟩ := h'
  refine ⟨added ++ added', hadded.append hadded', forall₂_trans ?_ hbc⟩
  rw [← List.append_assoc]
  exact List.rel_append hab (forall₂_refl added')

/-- Where nothing is appended the ids are the same. -/
theorem distinct {a b : List Value} (h : Grows [] a b) (ha : Distinct a) : Distinct b := by
  obtain ⟨added, hadded, hab⟩ := h
  obtain rfl := List.sublist_nil.1 hadded
  rw [List.append_nil] at hab
  unfold Distinct
  rw [ids_eq_of_forall₂ hab]
  exact ha

end Grows

/-! ## One event -/

/-- The comments that an event offers to an entry. -/
def offered (key : Key) (event : String) (payload : Value) : List Value :=
  if event = EventName.commentAdded ∧ commentRule.detailKey payload = some key then
    (payload.get? "comment").toList
  else []

/-- A thread after a comment was added. -/
def withComment (thread : List Value) (comment : Value) : List Value :=
  if knows thread comment then thread else thread ++ [comment]

/-- A comment that is an object can be added. -/
theorem mergeComment_thread {payload comment : Value}
    (hcomment : payload.get? "comment" = some comment) (hobject : comment.asObject?.isSome)
    (thread : List Value) :
    mergeComment (.array thread) payload = .ok (.array (withComment thread comment)) := by
  obtain ⟨fields, hfields⟩ := Option.isSome_iff_exists.1 hobject
  have hthread : (Value.array thread).asArray? = some thread := rfl
  unfold mergeComment withComment knows
  simp only [hcomment, hfields, hthread]
  split <;> rfl

/-- Nothing else can be added, and to nothing else. -/
theorem thread_of_mergeComment {cached payload value : Value}
    (h : mergeComment cached payload = .ok value) :
    ∃ thread comment, cached = .array thread ∧ payload.get? "comment" = some comment ∧
      comment.asObject?.isSome ∧ value = .array (withComment thread comment) := by
  have hadded := h
  unfold mergeComment at h
  split at h
  case h_2 => contradiction
  case h_1 comment hcomment =>
    split at h
    case h_1 => contradiction
    case h_2 => contradiction
    case h_3 fields thread hfields hthread =>
      have hobject : comment.asObject?.isSome := by rw [hfields]; rfl
      cases cached with
      | array items =>
        rw [mergeComment_thread hcomment hobject] at hadded
        exact ⟨items, comment, rfl, hcomment, hobject, (Except.ok.inj hadded).symm⟩
      | _ => contradiction

/-- A thread grows by a comment that is added. -/
theorem grows_withComment (thread : List Value) (comment : Value) :
    Grows [comment] thread (withComment thread comment) := by
  unfold withComment
  split
  · exact .refl _ _
  · exact .append thread comment

theorem distinct_withComment {thread : List Value} (h : Distinct thread) (comment : Value) :
    Distinct (withComment thread comment) := by
  unfold withComment
  split
  · exact h
  · rename_i hnew
    exact distinct_append h (eq_false_of_ne_true hnew)

/-- A thread grows by other reactions. -/
theorem grows_patchThread (offered thread : List Value) (payload : Value) :
    Grows offered thread (patchThread thread payload) := by
  unfold patchThread
  split
  · exact .react _ _ _ _
  · exact .refl _ _

/-- Only objects are merged with objects. -/
theorem shallowMerge_array (thread : List Value) (patch : Value) :
    ∃ fault, shallowMerge (.array thread) patch = .error fault := ⟨_, rfl⟩

theorem mergeEntity_array (thread : List Value) (payload : Value) :
    ∃ fault, mergeEntity (.array thread) payload = .error fault := by
  unfold mergeEntity
  split
  · exact shallowMerge_array thread _
  · exact ⟨_, rfl⟩

/-- An array that an event is about stays one, and it grows by a comment at most. -/
def Tends (rule : Rule) (offered thread : List Value) (payload : Value) : Prop :=
  ∃ thread', rule.patch (.array thread) payload = .array thread' ∧
    (Distinct thread → Distinct thread') ∧ Grows offered thread thread'

theorem tends_of_no_merge {rule : Rule} (h : rule.merge = none) (offered thread : List Value)
    (payload : Value) : Tends rule offered thread payload :=
  ⟨thread, by rw [Rule.patch, h], id, .refl _ _⟩

theorem tends_of_error {rule : Rule} {f : Value → Value → Except Fault Value}
    (hmerge : rule.merge = merging f) {thread : List Value} {payload : Value}
    (h : ∃ fault, f (.array thread) payload = .error fault) (offered : List Value) :
    Tends rule offered thread payload := by
  obtain ⟨fault, hfault⟩ := h
  exact ⟨thread, by rw [Rule.patch_merging hmerge, hfault], id, .refl _ _⟩

/-- The rule for new comments. -/
def additionRule : Rule :=
  { commentRule with merge := merging mergeComment }

theorem tends_addition (thread : List Value) (payload : Value) :
    Tends additionRule (payload.get? "comment").toList thread payload := by
  cases h : mergeComment (.array thread) payload with
  | error fault => exact tends_of_error rfl ⟨fault, h⟩ _
  | ok value =>
    obtain ⟨_, comment, hthread, hcomment, -, rfl⟩ := thread_of_mergeComment h
    obtain rfl := Value.array.inj hthread
    refine ⟨withComment thread comment, by rw [Rule.patch_merging rfl, h],
      fun hdistinct => distinct_withComment hdistinct comment, ?_⟩
    rw [hcomment]
    exact grows_withComment thread comment

theorem tends_reaction (offered thread : List Value) (payload : Value) :
    Tends reactionRule offered thread payload :=
  ⟨patchThread thread payload, patch_thread thread payload,
    (grows_patchThread [] thread payload).distinct, grows_patchThread offered thread payload⟩

/-- **What an event makes of a thread**, rule by rule. -/
theorem tends_defaultRules : ∀ e ∈ defaultRules, ∀ {key : Key} {payload : Value},
    e.2.detailKey payload = some key → ∀ thread,
      Tends e.2 (offered key e.1 payload) thread payload := by
  simp only [defaultRules, List.forall_mem_cons]
  refine ⟨?created, ?updated, ?deleted, ?added, ?commentUpdated, ?commentDeleted, ?reaction,
    ?progress, ?rest⟩
  case created => exact fun _ _ => tends_of_no_merge rfl _ _ _
  case updated => exact fun _ thread => tends_of_error rfl (mergeEntity_array thread _) _
  case deleted => exact fun _ _ => tends_of_no_merge rfl _ _ _
  case added =>
    intro key payload hdetail thread
    rw [offered, if_pos ⟨rfl, hdetail⟩]
    exact tends_addition thread payload
  case commentUpdated => exact fun _ _ => tends_of_no_merge rfl _ _ _
  case commentDeleted => exact fun _ _ => tends_of_no_merge rfl _ _ _
  case reaction => exact fun _ thread => tends_reaction _ thread _
  case progress => exact fun _ thread => tends_of_error rfl (shallowMerge_array thread _) _
  case rest => exact fun _ he => absurd he List.not_mem_nil

/-! ## A row of events -/

namespace Sync

/-- Apply a row of events, each at once. -/
def applyEvents (s : Sync) (events : List (String × Value)) : Sync :=
  events.foldl (fun s e => (s.apply none e.1 e.2).2) s

/-- An event without a rule changes nothing. -/
theorem store_apply_of_no_rule {s : Sync} {b : Bridge} (hb : s.bridge = some b) {event : String}
    (h : b.rules.rule? event = none) (time : Option Nat) (payload : Value) :
    (s.apply time event payload).2.store = s.store := by
  simp only [apply, hb, Bridge.apply, h]
  rfl

/-- The thread after one event. -/
theorem thread_apply {s : Sync} {b : Bridge} (hb : s.bridge = some b)
    (hrules : b.rules = defaultRules) {key : Key} {thread : List Value}
    (hthread : s.store.get? key = some (.array thread)) (event : String) (payload : Value) :
    ∃ thread', (s.apply none event payload).2.store.get? key = some (.array thread') ∧
      (Distinct thread → Distinct thread') ∧ Grows (offered key event payload) thread thread' := by
  cases hrule : b.rules.rule? event with
  | none =>
    rw [store_apply_of_no_rule hb hrule]
    exact ⟨thread, hthread, id, .refl _ _⟩
  | some rule =>
    rw [get?_apply hb hrule]
    by_cases hdetail : rule.detailKey payload = some key
    · have hmem := RuleTable.mem_of_rule? hrule
      rw [hrules] at hmem
      obtain ⟨thread', hpatch, hdistinct, hgrows⟩ := tends_defaultRules _ hmem hdetail thread
      refine ⟨thread', ?_, hdistinct, hgrows⟩
      rw [if_pos hdetail, hthread, Option.map_some, hpatch]
    · rw [if_neg hdetail]
      exact ⟨thread, hthread, id, .refl _ _⟩

/-- **Threads lose nothing and take nothing twice.**  Whatever events are applied by the rules for
the business events, a thread stays an array in which no id comes twice.  Its elements stay at their
places with other reactions at most.  What follows them are comments of the new-comment events about
this thread, in order, at most one for each event, and with other reactions at most. -/
theorem thread_grows {s : Sync} {b : Bridge} (hb : s.bridge = some b)
    (hrules : b.rules = defaultRules) {key : Key} {thread : List Value}
    (hthread : s.store.get? key = some (.array thread)) (hdistinct : Distinct thread)
    (events : List (String × Value)) :
    ∃ thread', (s.applyEvents events).store.get? key = some (.array thread') ∧ Distinct thread' ∧
      Grows (events.flatMap fun e => offered key e.1 e.2) thread thread' := by
  induction events generalizing s thread with
  | nil => exact ⟨thread, hthread, hdistinct, .refl _ _⟩
  | cons e rest ih =>
    obtain ⟨between, hbetween, hkept, hfirst⟩ := thread_apply hb hrules hthread e.1 e.2
    obtain ⟨thread', hthread', hdistinct', hrest⟩ :=
      ih ((bridge_apply s none e.1 e.2).trans hb) hbetween (hkept hdistinct)
    exact ⟨thread', hthread', hdistinct', hfirst.trans hrest⟩

/-- A thread with an element of another shape takes a comment that comes twice, and later its
reactions, and one without an id. -/
theorem thread_grows_twice :
    let key := Key.comments "X-1"
    let comment (fields : Fields) : Value :=
      .object [("comment", .object fields), ("entityId", .string "X-1")]
    let thread : List Value := [.object [("id", .string "c-1")], .string "c-2"]
    let events : List (String × Value) := [
      (EventName.commentAdded, comment [("id", .string "c-2")]),
      (EventName.commentAdded, comment [("id", .string "c-2")]),
      (EventName.reactionChanged,
        .object [("commentId", .string "c-2"), ("entityId", .string "X-1")]),
      (EventName.commentAdded, comment [])]
    let s := start ⟨[(key, .array thread)]⟩
    s.store.get? key = some (.array thread) ∧ Distinct thread ∧
      (s.applyEvents events).store.get? key = some (.array (thread ++
        [.object [("id", .string "c-2"), ("reactions", .null)], .object []])) ∧
      ∃ thread', (s.applyEvents events).store.get? key = some (.array thread') ∧
        Distinct thread' ∧ Grows (events.flatMap fun e => offered key e.1 e.2) thread thread' := by
  intro key comment thread events s
  have hthread : s.store.get? key = some (.array thread) := by decide +kernel
  have hdistinct : Distinct thread := by
    unfold Distinct
    decide +kernel
  exact ⟨hthread, hdistinct, by decide +kernel, thread_grows rfl rfl hthread hdistinct events⟩

end Sync
end LiveSync.Cache
