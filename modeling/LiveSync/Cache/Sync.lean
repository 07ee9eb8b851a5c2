import LiveSync.Cache.Bridge

/-!
# Keeping a cache in sync

A cache store, the bridge that keeps it in sync, and a record of what the bridge did to the store.
Once the bridge is dropped nothing changes the store any more, and timers that are left do nothing.
-/

namespace LiveSync.Cache

open LiveSync.Json

/-- One thing that was done to a store. -/
structure Change where
  /-- When it was done, unless no clock was running. -/
  time : Option Nat
  /-- What was done. -/
  op : StoreOp
  deriving DecidableEq

/-- A store and its bridge. -/
structure Sync where
  /-- The entries. -/
  store : Store := {}
  /-- The bridge, until it is dropped. -/
  bridge : Option Bridge := none
  /-- What the bridge did, in order. -/
  changes : List Change := []

namespace Sync

/-- Carry out what the bridge wants done. -/
def carryOut (s : Sync) (time : Option Nat) (ops : List StoreOp) : Sync :=
  { s with
    store := s.store.applyAll ops
    changes := s.changes ++ ops.map fun op => ⟨time, op⟩ }

/-- Apply an event at once. -/
def apply (s : Sync) (time : Option Nat) (event : String) (payload : Value) :
    Option Outcome × Sync :=
  match s.bridge with
  | none => (none, s)
  | some b =>
    let (outcome, ops) := b.apply s.store event payload
    (some outcome, s.carryOut time ops)

/-- Take an event in while the clock runs. -/
def handle (s : Sync) (now : Nat) (order : Nat) (event : String) (payload : Value) : Sync :=
  match s.bridge with
  | none => s
  | some b =>
    let (ops, b) := b.handle s.store event payload now order
    { s with bridge := some b }.carryOut (some now) ops

/-- The timers of bursts that have not fired. -/
def timers (s : Sync) : List BurstTimer :=
  (s.bridge.map (·.timers)).getD []

/-- The timer that fires next. -/
def nextTimer (s : Sync) : Option BurstTimer :=
  s.bridge.bind Bridge.nextTimer

/-- Fire a timer. -/
def fire (s : Sync) (now : Nat) (timer : BurstTimer) : Sync :=
  match s.bridge with
  | none => s
  | some b =>
    let (ops, b) := b.fire s.store timer
    { s with bridge := some b }.carryOut (some now) ops

/-- Fire the timers that are due by an instant, each at its time; `count` bounds their number. -/
def fireUntil (deadline : Nat) : (count : Nat) → Sync → Sync
  | 0, s => s
  | count + 1, s =>
    match s.nextTimer with
    | none => s
    | some timer =>
      if timer.due ≤ deadline then fireUntil deadline count (s.fire timer.due timer) else s

/-- Let the clock run to an instant. -/
def advance (s : Sync) (deadline : Nat) : Sync :=
  fireUntil deadline s.timers.length s

/-- Forget the payloads that wait. -/
def detach (s : Sync) : Sync :=
  { s with bridge := s.bridge.map Bridge.detach }

/-- Drop the bridge. -/
def dropBridge (s : Sync) : Sync :=
  { s with bridge := none }

/-- Start a new record of what the bridge does. -/
def forgetChanges (s : Sync) : Sync :=
  { s with changes := [] }

end Sync

end LiveSync.Cache
