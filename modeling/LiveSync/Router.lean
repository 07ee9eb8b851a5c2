/-!
# The event router

Listeners are registered for events by name.  Registering one listener twice for an event is one
registration with two holders; it ends when its last handle is dropped, and `off` and `clear` end
it at once.  A handle that was detached never releases its share.  The listeners of an event are
called in the order of their registration.
-/

namespace LiveSync

/-- One listener of one event. -/
structure Registration (L : Type) where
  /-- Tells registrations apart, also those of one listener at different times. -/
  id : Nat
  /-- Who is called. -/
  listener : L
  /-- How many handles keep the registration. -/
  holders : Nat
  deriving DecidableEq

/-- A share in a registration. -/
structure Handle where
  /-- The event. -/
  event : String
  /-- The registration. -/
  id : Nat
  deriving DecidableEq, Repr

/-- The registrations of all events. -/
structure Router (L : Type) where
  /-- The registrations of each event, in the order in which they were made. -/
  table : List (String × List (Registration L)) := []
  /-- The id of the next registration. -/
  nextId : Nat := 0

namespace Router

variable {L : Type}

/-- The registrations of an event. -/
def registrations (r : Router L) (event : String) : List (Registration L) :=
  ((r.table.find? fun e => e.1 = event).map (·.2)).getD []

/-- Replace the registrations of an event. -/
def setRegistrations (r : Router L) (event : String) (regs : List (Registration L)) : Router L :=
  { r with table := (event, regs) :: r.table.filter fun e => e.1 ≠ event }

/-- The listeners that an emit calls, in order. -/
def recipients (r : Router L) (event : String) : List L :=
  (r.registrations event).map (·.listener)

/-- How many listeners an event has. -/
def count (r : Router L) (event : String) : Nat :=
  (r.registrations event).length

/-- Add a holder to the registration of an id. -/
def hold (id : Nat) (reg : Registration L) : Registration L :=
  if reg.id = id then { reg with holders := reg.holders + 1 } else reg

/-- Register a listener.  The handle is a share in its registration. -/
def on [DecidableEq L] (r : Router L) (event : String) (listener : L) : Handle × Router L :=
  let regs := r.registrations event
  match regs.find? fun reg => reg.listener = listener with
  | some reg => (⟨event, reg.id⟩, r.setRegistrations event (regs.map (hold reg.id)))
  | none =>
    (⟨event, r.nextId⟩,
      { r.setRegistrations event (regs ++ [⟨r.nextId, listener, 1⟩]) with nextId := r.nextId + 1 })

/-- End the registration of a listener.  The result tells whether there was one. -/
def off [DecidableEq L] (r : Router L) (event : String) (listener : L) : Bool × Router L :=
  let regs := r.registrations event
  (regs.any fun reg => reg.listener = listener,
    r.setRegistrations event (regs.filter fun reg => reg.listener ≠ listener))

/-- Take a holder from a registration; without holders it is gone. -/
def letGo (id : Nat) (reg : Registration L) : Option (Registration L) :=
  if reg.id = id then
    if reg.holders ≤ 1 then none else some { reg with holders := reg.holders - 1 }
  else some reg

/-- Give back the share of a handle.  It has no effect once the registration has ended. -/
def release (r : Router L) (h : Handle) : Router L :=
  r.setRegistrations h.event ((r.registrations h.event).filterMap (letGo h.id))

/-- End all registrations. -/
def clear (r : Router L) : Router L :=
  { r with table := [] }

end Router

end LiveSync
