import LiveSync.Json.Value
import LiveSync.Router

/-!
# Listeners that act

What a listener does while it is called may change the router it is called by.  Its actions may
depend on all that happened so far; they run in order until one of them fails, and a failing
listener does not count as delivered to.  With a script a listener does the same each time.  An
emit calls the listeners that were registered when it began, whatever they do to the registrations
meanwhile.

Listeners may call each other without end, so that a run has a depth of nested emits it may reach.
A run that would go deeper has no result.
-/

namespace LiveSync

open LiveSync.Json

/-- What a listener, or the owner of the router, does. -/
inductive Action (L : Type) where
  /-- Register a listener and keep its handle under a name. -/
  | on (event : String) (listener : L) (handle : String)
  /-- End the registration of a listener. -/
  | off (event : String) (listener : L)
  /-- Call the listeners of an event. -/
  | emit (event : String) (payload : Value)
  /-- Count the listeners of an event. -/
  | count (event : String)
  /-- Drop a handle. -/
  | dropHandle (handle : String)
  /-- Give a handle up without releasing its share. -/
  | detach (handle : String)
  /-- End all registrations. -/
  | clear
  /-- Drop the router itself. -/
  | dropRouter
  /-- Fail. -/
  | fail

/-- What an action gives back. -/
inductive ActionResult where
  /-- The event of a handle. -/
  | event (name : String)
  /-- Whether there was something to end. -/
  | flag (b : Bool)
  /-- A number of listeners. -/
  | number (n : Nat)
  /-- Nothing. -/
  | nothing
  deriving DecidableEq, Repr

/-- A router together with the handles that are held and the calls that were made. -/
structure Stage (L : Type) where
  /-- The router, until it is dropped. -/
  router : Option (Router L) := some {}
  /-- The handles, by name. -/
  handles : List (String × Handle) := []
  /-- The calls made so far, in order. -/
  calls : List (L × Value) := []

namespace Stage

variable {L : Type}

/-- The handle that is held under a name. -/
def handle? (s : Stage L) (name : String) : Option Handle :=
  (s.handles.find? fun h => h.1 = name).map (·.2)

/-- Hold nothing under a name. -/
def forget (s : Stage L) (name : String) : Stage L :=
  { s with handles := s.handles.filter fun h => h.1 ≠ name }

/-- Give back the share of the handle that is held under a name. -/
def releaseHandle (s : Stage L) (name : String) : Stage L :=
  match s.handle? name with
  | none => s
  | some h => { s.forget name with router := s.router.map fun r => r.release h }

/-- Register a listener; a handle that was held under the name is dropped afterwards. -/
def register [DecidableEq L] (s : Stage L) (event : String) (listener : L) (name : String) :
    ActionResult × Stage L :=
  match s.router with
  | none => (.nothing, s)
  | some r =>
    let (h, r) := r.on event listener
    let s := { s with router := some r }.releaseHandle name
    (.event h.event, { s with handles := (name, h) :: s.handles })

/-- Run actions until one fails.  The result tells whether none did. -/
def runActions (perform : Action L → Stage L → Option (ActionResult × Stage L)) :
    List (Action L) → Stage L → Option (Bool × Stage L)
  | [], s => some (true, s)
  | .fail :: _, s => some (false, s)
  | a :: rest, s =>
    match perform a s with
    | some (_, s) => runActions perform rest s
    | none => none

/-- Call listeners one after the other, and count those that did not fail. -/
def deliver (call : L → Stage L → Option (Bool × Stage L)) :
    List L → Stage L → Option (Nat × Stage L)
  | [], s => some (0, s)
  | l :: rest, s =>
    match call l s with
    | none => none
    | some (ok, s) => (deliver call rest s).map fun (n, s) => (if ok then n + 1 else n, s)

/-- Perform one action.  A listener that is called does what `behave` says of the stage, on which
its own call is the last one.  Emits nest at most `depth` deep. -/
def act [DecidableEq L] (behave : L → Stage L → List (Action L)) :
    (depth : Nat) → Action L → Stage L → Option (ActionResult × Stage L)
  | _, .on event listener name, s => some (s.register event listener name)
  | _, .off event listener, s =>
    match s.router with
    | none => some (.nothing, s)
    | some r =>
      let (found, r) := r.off event listener
      some (.flag found, { s with router := some r })
  | _, .count event, s =>
    some (match s.router with | none => .nothing | some r => .number (r.count event), s)
  | _, .dropHandle name, s => some (.flag (s.handle? name).isSome, s.releaseHandle name)
  | _, .detach name, s => some (.flag (s.handle? name).isSome, s.forget name)
  | _, .clear, s => some (.nothing, { s with router := s.router.map Router.clear })
  | _, .dropRouter, s => some (.nothing, { s with router := none })
  | _, .fail, s => some (.nothing, s)
  | 0, .emit _ _, _ => none
  | depth + 1, .emit event payload, s =>
    match s.router with
    | none => some (.nothing, s)
    | some r =>
      let call (l : L) (s : Stage L) :=
        let s := { s with calls := s.calls ++ [(l, payload)] }
        runActions (act behave depth) (behave l s) s
      (deliver call (r.recipients event) s).map fun (n, s) => (.number n, s)

/-- Perform one action where each listener follows its script. -/
def perform [DecidableEq L] (script : L → List (Action L)) :
    (depth : Nat) → Action L → Stage L → Option (ActionResult × Stage L) :=
  act fun l _ => script l

end Stage

end LiveSync
