import LiveSync.Cache.Sync
import LiveSync.Router

/-!
# A cache at work

A bridge is attached to a router by one listener per rule, and a clock moves when it is told to.
Attaching twice registers every listener twice; detaching removes them all.
-/

namespace LiveSync.Cache

open LiveSync.Json

/-- A listener of the bridge: which attachment it belongs to, and its event. -/
abbrev Attached := Nat × String

/-- A cache with its bridge, its router and its clock. -/
structure Station where
  /-- The time. -/
  now : Nat := 0
  /-- How many timers were armed so far. -/
  armed : Nat := 0
  /-- The store and its bridge. -/
  sync : Sync
  /-- Who listens to what. -/
  router : Router Attached := {}
  /-- How often the bridge was attached. -/
  attachments : Nat := 0
  /-- The registrations that the bridge holds. -/
  handles : List Handle := []

namespace Station

/-- Take an event in. -/
def handle (s : Station) (event : String) (payload : Value) : Station :=
  { s with sync := s.sync.handle s.now s.armed event payload, armed := s.armed + 1 }

/-- Apply an event at once. -/
def apply (s : Station) (event : String) (payload : Value) : Option Outcome × Station :=
  let (outcome, sync) := s.sync.apply (some s.now) event payload
  (outcome, { s with sync := sync })

/-- Take an event in where no clock runs: it is applied at once. -/
def handleTimeless (s : Station) (event : String) (payload : Value) : Station :=
  { s with sync := (s.sync.apply none event payload).2 }

/-- Register the listener of one event. -/
def attachEvent (s : Station) (event : String) : Station :=
  let (handle, router) := s.router.on event (s.attachments, event)
  { s with router := router, handles := s.handles ++ [handle] }

/-- Register a listener for each rule. -/
def attach (s : Station) : Station :=
  match s.sync.bridge with
  | none => s
  | some b =>
    let s := (b.rules.map (·.1)).foldl attachEvent s
    { s with attachments := s.attachments + 1 }

/-- Remove the listeners of the bridge. -/
def removeListeners (s : Station) : Station :=
  { s with router := s.handles.foldl Router.release s.router, handles := [] }

/-- Remove the listeners, and forget the payloads that wait. -/
def detach (s : Station) : Station :=
  { s.removeListeners with sync := s.sync.detach }

/-- Drop the bridge, which removes its listeners. -/
def dropBridge (s : Station) : Station :=
  { s.removeListeners with sync := s.sync.dropBridge }

/-- Tell the listeners of an event.  The result is their number. -/
def emit (s : Station) (event : String) (payload : Value) : Nat × Station :=
  let recipients := s.router.recipients event
  (recipients.length, recipients.foldl (fun s r => s.handle r.2 payload) s)

/-- Let the clock run. -/
def advance (s : Station) (span : Nat) : Station :=
  let now := s.now + span
  { s with now := now, sync := s.sync.advance now }

end Station

end LiveSync.Cache
