import LiveSync.Proofs.Cache.Coalescing
import LiveSync.Proofs.Json.Fields

/-!
# The bursts of the business events

Two of the rules for the business events have a window: changed reactions and the progress of a
job.  A payload of the first writes to one comment of a thread and a payload of the second to some
fields of a job, so that the last one of a burst need not supersede the others.

* `patchAll_thread` — every comment ends with the last reactions that were sent for it.
* `patchAll_job` — every field ends with the last value that was sent for it.
* `gather_eq_applyEach` — when gathering payloads comes to the same as applying each.
-/

namespace LiveSync.Cache

open LiveSync.Json

/-! ## Reactions -/

/-- The rule for changed reactions. -/
def reactionRule : Rule :=
  { commentRule with merge := merging mergeReactions, coalesce := some reactionWindow }

theorem rule?_reactionChanged :
    RuleTable.rule? defaultRules EventName.reactionChanged = some reactionRule := rfl

/-- A comment with other reactions, if there are any. -/
def withReactions (reactions : Option Value) (comment : Value) : Value :=
  match reactions, comment with
  | some r, .object fields => .object (Fields.insert fields "reactions" r)
  | _, _ => comment

/-- The place of the comment with an id: the first one with it, which must be an object. -/
def place? (id : Value) : List Value → Option Nat
  | [] => none
  | c :: rest =>
    if sameId (c.get? "id") (some id) then
      match c with
      | .object _ => some 0
      | _ => none
    else (place? id rest).map (· + 1)

/-- The place of the comment that a payload is about. -/
def changedPlace? (thread : List Value) (payload : Value) : Option Nat :=
  (payload.get? "commentId").bind fun id => place? id thread

/-- The reactions that a payload has. -/
def sentReactions (payload : Value) : Value :=
  (payload.get? "reactions").getD .null

/-- The reactions that the last payload about the comment at a place has. -/
def lastReactions (thread : List Value) (payloads : List Value) (i : Nat) : Option Value :=
  match payloads with
  | [] => none
  | p :: rest =>
    (lastReactions thread rest i).or
      (if changedPlace? thread p = some i then some (sentReactions p) else none)

/-- A thread after a payload. -/
def patchThread (thread : List Value) (payload : Value) : List Value :=
  match changedPlace? thread payload with
  | some i => thread.modify i (withReactions (some (sentReactions payload)))
  | none => thread

theorem setReactions_eq (id reactions : Value) (thread : List Value) :
    setReactions id reactions thread =
      (place? id thread).map fun i => thread.modify i (withReactions (some reactions)) := by
  induction thread with
  | nil => rfl
  | cons c rest ih =>
    unfold setReactions place?
    by_cases hid : sameId (c.get? "id") (some id) = true
    · rw [if_pos hid, if_pos hid]
      cases c <;> rfl
    · rw [if_neg hid, if_neg hid, ih, Option.map_map, Option.map_map]
      rfl

theorem mergeReactions_thread (thread : List Value) (payload : Value) :
    mergeReactions (.array thread) payload =
      match changedPlace? thread payload with
      | some i => .ok (.array (thread.modify i (withReactions (some (sentReactions payload)))))
      | none => .error (.protocol
          (if (payload.get? "commentId").isSome then "comment not in cached thread"
            else "reaction change without commentId")) := by
  unfold mergeReactions changedPlace?
  cases payload.get? "commentId" with
  | none => rfl
  | some id =>
    simp only [Value.asArray?, setReactions_eq, Option.bind_some]
    cases place? id thread <;> rfl

theorem patch_thread (thread : List Value) (payload : Value) :
    reactionRule.patch (.array thread) payload = .array (patchThread thread payload) := by
  rw [Rule.patch_merging rfl, mergeReactions_thread]
  unfold patchThread
  cases changedPlace? thread payload <;> rfl

/-- What is no thread takes no reactions. -/
theorem mergeReactions_of_not_thread {v : Value} (h : v.asArray? = none) (payload : Value) :
    ∃ fault, mergeReactions v payload = .error fault := by
  unfold mergeReactions
  rw [h]
  cases payload.get? "commentId" <;> exact ⟨_, rfl⟩

/-- What is no thread is left as it is. -/
theorem patch_of_not_thread {v : Value} (h : v.asArray? = none) (payload : Value) :
    reactionRule.patch v payload = v := by
  obtain ⟨fault, hfault⟩ := mergeReactions_of_not_thread h payload
  rw [Rule.patch_merging rfl, hfault]

/-- Other reactions do not change which comment a payload is about. -/
theorem place?_modify (id r : Value) (thread : List Value) (i : Nat) :
    place? id (thread.modify i (withReactions (some r))) = place? id thread := by
  induction thread generalizing i with
  | nil => simp
  | cons c rest ih =>
    cases i with
    | zero =>
      cases c with
      | object fields =>
        have hid : (withReactions (some r) (.object fields)).get? "id" =
            Value.get? (.object fields) "id" := by
          show Fields.get? (Fields.insert fields "reactions" r) "id" = Fields.get? fields "id"
          rw [Fields.get?_insert, if_neg (by decide)]
        rw [List.modify_zero_cons]
        unfold place?
        rw [hid]
        rfl
      | _ => rfl
    | succ n =>
      rw [List.modify_succ_cons]
      unfold place?
      rw [ih]

theorem changedPlace?_patchThread (thread : List Value) (p q : Value) :
    changedPlace? (patchThread thread p) q = changedPlace? thread q := by
  unfold patchThread
  split
  · unfold changedPlace?
    simp only [place?_modify]
  · rfl

theorem lastReactions_patchThread (thread : List Value) (p : Value) (payloads : List Value)
    (i : Nat) :
    lastReactions (patchThread thread p) payloads i = lastReactions thread payloads i := by
  induction payloads with
  | nil => rfl
  | cons q rest ih => simp only [lastReactions, ih, changedPlace?_patchThread]

theorem withReactions_withReactions (later : Option Value) (r : Value) (comment : Value) :
    withReactions later (withReactions (some r) comment) =
      withReactions (later.or (some r)) comment := by
  cases later with
  | none => rfl
  | some r' =>
    cases comment with
    | object fields =>
      exact congrArg Value.object (Fields.insert_insert_self fields "reactions" r r')
    | _ => rfl

/-- **Every comment of a thread ends with the last reactions that were sent for it.** -/
theorem patchAll_thread (thread : List Value) (payloads : List Value) :
    ∃ thread', reactionRule.patchAll (.array thread) payloads = .array thread' ∧
      ∀ i, thread'[i]? = thread[i]?.map (withReactions (lastReactions thread payloads i)) := by
  induction payloads generalizing thread with
  | nil => exact ⟨thread, rfl, fun i => by cases thread[i]? <;> rfl⟩
  | cons p rest ih =>
    obtain ⟨thread', hpatch, hget⟩ := ih (patchThread thread p)
    refine ⟨thread', ?_, fun i => ?_⟩
    · rw [← hpatch, ← patch_thread]
      rfl
    · rw [hget, lastReactions_patchThread, lastReactions]
      unfold patchThread
      cases hplace : changedPlace? thread p with
      | none => simp
      | some j =>
        by_cases hj : j = i
        · subst hj
          simp [Function.comp_def, withReactions_withReactions]
        · simp [hj]

/-- When two rows of payloads make the same of a thread. -/
theorem patchAll_thread_eq_iff (thread : List Value) (a b : List Value) :
    reactionRule.patchAll (.array thread) a = reactionRule.patchAll (.array thread) b ↔
      ∀ i comment, thread[i]? = some comment →
        withReactions (lastReactions thread a i) comment =
          withReactions (lastReactions thread b i) comment := by
  obtain ⟨ta, ha, hgeta⟩ := patchAll_thread thread a
  obtain ⟨tb, hb, hgetb⟩ := patchAll_thread thread b
  rw [ha, hb]
  constructor
  · intro heq i comment hi
    have hsame : ta[i]? = tb[i]? := by rw [Value.array.inj heq]
    rw [hgeta, hgetb, hi] at hsame
    exact Option.some.inj hsame
  · intro h
    refine congrArg Value.array (List.ext_getElem? fun i => ?_)
    rw [hgeta, hgetb]
    cases hi : thread[i]? with
    | none => rfl
    | some comment => exact congrArg some (h i comment hi)

/-! ## Progress -/

/-- The rule for the progress of a job. -/
def progressRule : Rule :=
  { detail := detailField "jobId" Key.job
    merge := merging shallowMerge
    coalesce := some progressWindow }

theorem rule?_jobProgress :
    RuleTable.rule? defaultRules EventName.jobProgress = some progressRule := rfl

/-- The fields that a payload has. -/
def sentFields (payload : Value) : Fields :=
  payload.asObject?.getD []

/-- The last value of a field that some payload has. -/
def lastField (payloads : List Value) (name : String) : Option Value :=
  Fields.last? (payloads.flatMap sentFields) name

theorem patch_job (base : Fields) (payload : Value) :
    progressRule.patch (.object base) payload =
      .object (Fields.insertAll base (sentFields payload)) := by
  rw [Rule.patch_merging rfl]
  cases payload <;> rfl

/-- What is no object is left as it is. -/
theorem patch_of_not_job {v : Value} (h : v.asObject? = none) (payload : Value) :
    progressRule.patch v payload = v := by
  rw [Rule.patch_merging rfl]
  unfold shallowMerge
  rw [h]

/-- **Every field of a job ends with the last value that was sent for it.** -/
theorem patchAll_job (base : Fields) (payloads : List Value) :
    progressRule.patchAll (.object base) payloads =
      .object (Fields.insertAll base (payloads.flatMap sentFields)) := by
  induction payloads generalizing base with
  | nil => rfl
  | cons p rest ih =>
    show progressRule.patchAll (progressRule.patch (.object base) p) rest = _
    rw [patch_job, ih, List.flatMap_cons, Fields.insertAll_append]

/-- When two rows of payloads make the same of a job. -/
theorem patchAll_job_eq_iff (base : Fields) (a b : List Value) :
    progressRule.patchAll (.object base) a = progressRule.patchAll (.object base) b ↔
      ∀ name, (lastField a name).or (Fields.found? base name) =
        (lastField b name).or (Fields.found? base name) := by
  rw [patchAll_job, patchAll_job]
  constructor
  · intro heq name
    have hsame := congrArg (Fields.found? · name) (Value.object.inj heq)
    simpa only [Fields.found?_insertAll, lastField] using hsame
  · intro h
    refine congrArg Value.object (Fields.insertAll_ext base fun name => ?_)
    rw [Fields.found?_insertAll, Fields.found?_insertAll]
    exact h name

/-! ## Gathering payloads and applying them at once -/

/-- Where no patch changes a value, no row of payloads does. -/
theorem patchAll_eq_self {rule : Rule} {v : Value} (h : ∀ p, rule.patch v p = v)
    (payloads : List Value) : rule.patchAll v payloads = v := by
  induction payloads with
  | nil => rfl
  | cons p rest ih =>
    show rule.patchAll (rule.patch v p) rest = v
    rw [h, ih]

namespace Sync

/-- A store that is kept in sync by the rules for the business events. -/
def start (store : Store) : Sync :=
  { store := store, bridge := some { rules := defaultRules } }

theorem gathers_start {event : String} {rule : Rule}
    (h : RuleTable.rule? defaultRules event = some rule) (store : Store) :
    Gathers event rule (start store) { rules := defaultRules } :=
  { bridge := rfl, known := h, filed := nofun, armed := nofun }

/-- A run and the same payloads applied at once agree on an entry if they patch it alike. -/
theorem gather_eq_applyEach_iff {event : String} {rule : Rule} {window : Nat}
    (hw : rule.window? = some window) (h : RuleTable.rule? defaultRules event = some rule)
    (store : Store) (hs : List Happening) (key : Key) :
    ((start store).gather event hs).store.get? key =
        ((start store).applyEach event (Happening.payloads hs)).store.get? key ↔
      ∀ v, store.get? key = some v →
        rule.patchAll v (rule.about key (Happening.survivors event rule hs)) =
          rule.patchAll v (rule.about key (Happening.payloads hs)) := by
  rw [get?_gather hw (gathers_start h store) hs key, get?_applyEach rfl h]
  have hnone : ({ rules := defaultRules } : Bridge).pending? ⟨event, some key⟩ = none := rfl
  rw [hnone, Happening.applied_none]
  show (store.get? key).map _ = (store.get? key).map _ ↔ _
  cases hv : store.get? key with
  | none => simp
  | some v => simp

/-- **When gathering payloads loses nothing.**  Take any run of one of the two events that are
gathered, and any entry.  At every moment the entry has the value that it would have if each
payload had been applied at once, exactly if every comment of a thread, or every field of a job,
comes out the same with its last value in the payloads that were not overtaken in their burst and
with its last value in all payloads. -/
theorem gather_eq_applyEach (store : Store) (hs : List Happening) (key : Key) :
    (((start store).gather EventName.reactionChanged hs).store.get? key =
        ((start store).applyEach EventName.reactionChanged (Happening.payloads hs)).store.get? key ↔
      ∀ thread, store.get? key = some (.array thread) → ∀ i comment, thread[i]? = some comment →
        withReactions (lastReactions thread (reactionRule.about key
            (Happening.survivors EventName.reactionChanged reactionRule hs)) i) comment =
          withReactions (lastReactions thread (reactionRule.about key
            (Happening.payloads hs)) i) comment) ∧
    (((start store).gather EventName.jobProgress hs).store.get? key =
        ((start store).applyEach EventName.jobProgress (Happening.payloads hs)).store.get? key ↔
      ∀ fields, store.get? key = some (.object fields) → ∀ name,
        (lastField (progressRule.about key
            (Happening.survivors EventName.jobProgress progressRule hs)) name).or
              (Fields.found? fields name) =
          (lastField (progressRule.about key (Happening.payloads hs)) name).or
            (Fields.found? fields name)) := by
  constructor
  · rw [gather_eq_applyEach_iff rfl rule?_reactionChanged]
    constructor
    · intro h thread hthread
      exact (patchAll_thread_eq_iff thread _ _).1 (h _ hthread)
    · intro h v hv
      cases v with
      | array thread => exact (patchAll_thread_eq_iff thread _ _).2 (h thread hv)
      | _ => rw [patchAll_eq_self (patch_of_not_thread rfl), patchAll_eq_self
          (patch_of_not_thread rfl)]
  · rw [gather_eq_applyEach_iff rfl rule?_jobProgress]
    constructor
    · intro h fields hfields
      exact (patchAll_job_eq_iff fields _ _).1 (h _ hfields)
    · intro h v hv
      cases v with
      | object fields => exact (patchAll_job_eq_iff fields _ _).2 (h fields hv)
      | _ => rw [patchAll_eq_self (patch_of_not_job rfl), patchAll_eq_self (patch_of_not_job rfl)]

/-- Two reactions within one burst, to two comments of a thread: the first is lost, although every
timer has fired and nothing was marked stale. -/
theorem gather_loses_reactions :
    let comment (id : String) : Value := .object [("id", .string id)]
    let key := Key.comments "X-1"
    let store : Store := ⟨[(key, .array [comment "c-1", comment "c-2"])]⟩
    let reaction (id : String) : Value := .object [("commentId", .string id),
      ("entityId", .string "X-1"), ("reactions", .array [])]
    let hs := [Happening.payload 0 0 (reaction "c-1"), .payload 10 1 (reaction "c-2"),
      .timer reactionWindow ⟨EventName.reactionChanged, some key⟩]
    let final := (start store).gather EventName.reactionChanged hs
    final.timers = [] ∧ (∀ c ∈ final.changes, c.op ≠ .markStale key) ∧
      final.store.get? key ≠
        ((start store).applyEach EventName.reactionChanged
          (Happening.payloads hs)).store.get? key := by
  decide +kernel

end Sync
end LiveSync.Cache
