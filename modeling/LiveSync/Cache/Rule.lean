import LiveSync.Cache.Key
import LiveSync.Clock
import LiveSync.EventName
import LiveSync.Fault
import LiveSync.Payload.Subject

/-!
# Cache rules

A rule says what an event means for the cache: which entry it is about, how that entry changes,
and which entries are stale when it cannot be changed in place.  The table at the end holds the
rules for the business events.
-/

namespace LiveSync.Cache

open LiveSync.Json

/-- How a function of a rule can go wrong. -/
inductive Mishap where
  /-- It gave a fault. -/
  | fault (f : Fault)
  /-- It broke down. -/
  | broken
  deriving DecidableEq

/-- What to do with the cache when an event arrives. -/
structure Rule where
  /-- The entries that are marked stale when nothing was changed in place. -/
  invalidate : List Key := []
  /-- The entry that a payload is about, if the rule knows one. -/
  detail : Option (Value → Except Mishap (Option Key)) := none
  /-- The entry and the payload make the changed entry. -/
  merge : Option (Value → Value → Except Mishap Value) := none
  /-- For how long payloads are gathered of which only the last counts. -/
  coalesce : Option Nat := none

namespace Rule

/-- The rule marks one more entry stale, unless it does so already. -/
def alsoInvalidate (r : Rule) (key : Key) : Rule :=
  if r.invalidate.contains key then r else { r with invalidate := r.invalidate ++ [key] }

/-- The entry that a payload is about.  A function that breaks down knows none. -/
def detailKey (r : Rule) (payload : Value) : Option Key :=
  match r.detail with
  | none => none
  | some f =>
    match f payload with
    | .ok key => key
    | .error _ => none

/-- For how long payloads are gathered, if they are gathered at all. -/
def window? (r : Rule) : Option Nat :=
  r.coalesce.filter (· ≠ 0)

/-- The entries that are marked stale when an event could not be merged. -/
def staleKeys (r : Rule) (detail : Option Key) : List Key :=
  match detail with
  | none => r.invalidate
  | some key => if r.invalidate.contains key then r.invalidate else r.invalidate ++ [key]

end Rule

/-! ## Merging -/

/-- Copy the fields of `patch` over those of `cached`.  Both must be objects. -/
def shallowMerge (cached patch : Value) : Except Fault Value :=
  match cached.asObject?, patch.asObject? with
  | some base, some fields => .ok (.object (fields.foldl (fun o f => Fields.insert o f.1 f.2) base))
  | _, _ => .error (.protocol "shallow merge needs two JSON objects")

/-- Change an entity by the `changes` of a payload or, without these, by its `entity`. -/
def mergeEntity (cached payload : Value) : Except Fault Value :=
  match (payload.get? "changes").or (payload.get? "entity") with
  | some patch => shallowMerge cached patch
  | none => .error (.protocol "entity_updated without changes")

/-- Do two values agree in the field `id`?  Both may lack it. -/
def sameId (a b : Option Value) : Bool :=
  match a, b with
  | some x, some y => x.same y
  | none, none => true
  | _, _ => false

/-- Append the comment of a payload to a thread, unless a comment with its id is there already. -/
def mergeComment (cached payload : Value) : Except Fault Value :=
  match payload.get? "comment" with
  | some comment =>
    match comment.asObject?, cached.asArray? with
    | none, _ => .error (.protocol "comment_added without comment")
    | _, none => .error (.protocol "cached thread is not a list")
    | some _, some thread =>
      let id := comment.get? "id"
      if id.isSome && thread.any (fun c => sameId (c.get? "id") id) then .ok (.array thread)
      else .ok (.array (thread ++ [comment]))
  | none => .error (.protocol "comment_added without comment")

/-- Replace the reactions of the first comment with the given id, which must be an object. -/
def setReactions (id reactions : Value) : List Value → Option (List Value)
  | [] => none
  | c :: rest =>
    if sameId (c.get? "id") (some id) then
      match c with
      | .object fields => some (.object (Fields.insert fields "reactions" reactions) :: rest)
      | _ => none
    else (setReactions id reactions rest).map (c :: ·)

/-- Replace the reactions of one comment of a thread. -/
def mergeReactions (cached payload : Value) : Except Fault Value :=
  match payload.get? "commentId", cached.asArray? with
  | none, _ => .error (.protocol "reaction change without commentId")
  | _, none => .error (.protocol "cached thread is not a list")
  | some id, some thread =>
    match setReactions id ((payload.get? "reactions").getD .null) thread with
    | some thread => .ok (.array thread)
    | none => .error (.protocol "comment not in cached thread")

/-! ## The rules for the business events -/

/-- A merge that can only give a fault. -/
def merging (f : Value → Value → Except Fault Value) :
    Option (Value → Value → Except Mishap Value) :=
  some fun cached payload =>
    match f cached payload with
    | .ok v => .ok v
    | .error e => .error (.fault e)

/-- The entry named by a text field of the payload, unless that is empty. -/
def detailField (field : String) (key : String → Key) :
    Option (Value → Except Mishap (Option Key)) :=
  some fun payload => .ok (((payload.getString? field).bind Payload.nonEmpty?).map key)

/-- A rule about the comments of an entity. -/
def commentRule : Rule := { detail := detailField "entityId" Key.comments }

/-- Reactions are gathered for this long. -/
def reactionWindow : Nat := Span.ofMillis 250

/-- Progress reports are gathered for this long. -/
def progressWindow : Nat := Span.ofMillis 200

/-- A table of rules by event. -/
abbrev RuleTable := List (String × Rule)

/-- The rules for the business events. -/
def defaultRules : RuleTable := [
  (EventName.entityCreated, { invalidate := [Key.entities] }),
  (EventName.entityUpdated,
    { invalidate := [Key.entities]
      detail := detailField "entityId" Key.entity
      merge := merging mergeEntity }),
  (EventName.entityDeleted,
    { invalidate := [Key.entities], detail := detailField "entityId" Key.entity }),
  (EventName.commentAdded, { commentRule with merge := merging mergeComment }),
  (EventName.commentUpdated, commentRule),
  (EventName.commentDeleted, commentRule),
  (EventName.reactionChanged,
    { commentRule with merge := merging mergeReactions, coalesce := some reactionWindow }),
  (EventName.jobProgress,
    { detail := detailField "jobId" Key.job
      merge := merging shallowMerge
      coalesce := some progressWindow })]

namespace RuleTable

/-- The rule of an event. -/
def rule? (t : RuleTable) (event : String) : Option Rule :=
  (t.find? fun e => e.1 = event).map (·.2)

/-- Add a rule; it takes the place of an earlier one for the same event. -/
def add (t : RuleTable) (event : String) (rule : Rule) : RuleTable :=
  if (t.any fun e => e.1 = event) then t.map fun e => if e.1 = event then (event, rule) else e
  else t ++ [(event, rule)]

end RuleTable

end LiveSync.Cache
