import LiveSync.Cache.Rule

/-!
# The cache bridge

The bridge applies events to a cache store by a table of rules.  Where a rule can merge and the
entry is cached, the entry is replaced in place; otherwise the keys of the rule are marked stale.
The bridge never creates an entry.

The payloads of a rule with a window are gathered by slot, which is the event and the entry it is
about: the first one starts a timer, later ones take its place, and the last one is applied when
the timer fires.
-/

namespace LiveSync.Cache

open LiveSync.Json

/-- What became of an event. -/
inductive Outcome where
  /-- There is no rule for it. -/
  | ignored
  /-- The entry was replaced. -/
  | merged (key : Key)
  /-- These entries were marked stale. -/
  | invalidated (keys : List Key)
  deriving DecidableEq

/-- Where the payloads of a burst are gathered. -/
structure Slot where
  /-- The event. -/
  event : String
  /-- The entry that it is about. -/
  detail : Option Key
  deriving DecidableEq, Repr

/-- A timer that applies a burst. -/
structure BurstTimer where
  /-- When it fires. -/
  due : Nat
  /-- Its place in the order in which all timers were armed. -/
  order : Nat
  /-- The slot it applies. -/
  slot : Slot
  deriving DecidableEq, Repr

/-- The rules, and the bursts that are under way. -/
structure Bridge where
  /-- The rules by event. -/
  rules : RuleTable
  /-- The last payload of each slot that waits. -/
  pending : List (Slot × Value) := []
  /-- The timers that have not fired. -/
  timers : List BurstTimer := []

/-- The changed entry, if a rule can merge and the entry is cached. -/
def merged? (rule : Rule) (store : Store) (payload : Value) : Option (Key × Value) :=
  match rule.merge, rule.detailKey payload with
  | some merge, some key =>
    match store.get? key with
    | some existing =>
      match merge existing payload with
      | .ok value => some (key, value)
      | .error _ => none
    | none => none
  | _, _ => none

/-- Apply an event by its rule. -/
def applyRule (rule : Rule) (store : Store) (payload : Value) : Outcome × List StoreOp :=
  match merged? rule store payload with
  | some (key, value) => (.merged key, [.set key value])
  | none =>
    let stale := rule.staleKeys (rule.detailKey payload)
    (.invalidated stale, stale.map .markStale)

namespace Bridge

/-- Apply an event at once.  The result has what is to be done to the store. -/
def apply (b : Bridge) (store : Store) (event : String) (payload : Value) :
    Outcome × List StoreOp :=
  match b.rules.rule? event with
  | none => (.ignored, [])
  | some rule => applyRule rule store payload

/-- The payload that waits in a slot. -/
def pending? (b : Bridge) (slot : Slot) : Option Value :=
  (b.pending.find? fun p => p.1 = slot).map (·.2)

/-- Let a payload wait in a slot, in place of one that waits there. -/
def await (b : Bridge) (slot : Slot) (payload : Value) : Bridge :=
  { b with pending := (slot, payload) :: b.pending.filter fun p => p.1 ≠ slot }

/-- Take an event in: apply it at once, or gather it if its rule has a window.  `order` is the
place of a timer that is armed now. -/
def handle (b : Bridge) (store : Store) (event : String) (payload : Value) (now : Nat)
    (order : Nat) : List StoreOp × Bridge :=
  match b.rules.rule? event with
  | none => ([], b)
  | some rule =>
    match rule.window? with
    | none => ((applyRule rule store payload).2, b)
    | some window =>
      let slot : Slot := ⟨event, rule.detailKey payload⟩
      let waiting := (b.pending? slot).isSome
      let b := b.await slot payload
      if waiting then ([], b)
      else ([], { b with timers := b.timers ++ [⟨now + window, order, slot⟩] })

/-- The timer that fires next: the earliest, and of these the one armed first. -/
def nextTimer (b : Bridge) : Option BurstTimer :=
  b.timers.foldl (fun best t =>
    match best with
    | none => some t
    | some s => if t.due < s.due ∨ (t.due = s.due ∧ t.order < s.order) then some t else some s) none

/-- Fire a timer: apply what waits in its slot, if anything does. -/
def fire (b : Bridge) (store : Store) (timer : BurstTimer) : List StoreOp × Bridge :=
  let b' := { b with
    timers := b.timers.filter (· ≠ timer)
    pending := b.pending.filter fun p => p.1 ≠ timer.slot }
  match b.pending? timer.slot with
  | none => ([], b')
  | some payload => ((b.apply store timer.slot.event payload).2, b')

/-- Forget the payloads that wait.  The timers go on and take what waits when they fire. -/
def detach (b : Bridge) : Bridge :=
  { b with pending := [] }

end Bridge

end LiveSync.Cache
