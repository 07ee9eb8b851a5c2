import LiveSync.Clock
import LiveSync.Fault
import LiveSync.Subscription

/-!
# The subscription registry

At most one entry exists per entity.  It says how far a subscription has come and which callers
wait for the server to answer.  A caller is named by a ticket; every operation gives the answers
to the tickets that it settles, and tells what has to go on the wire.  An entity without entry has
no subscription.

The entries are listed in ascending order of their entities.
-/

namespace LiveSync

open LiveSync.Json

/-- Names a caller that waits for an answer. -/
abbrev Ticket := Nat

/-- An answer and the caller it goes to. -/
abbrev Reply := Ticket × Answer

/-- The subscription of one entity. -/
structure Entry where
  /-- How far it has come. -/
  status : Status
  /-- When the server's acknowledgement is overdue; none while no request is on the wire. -/
  deadline : Option Nat
  /-- Did the request to subscribe go out on the present connection? -/
  sent : Bool
  /-- The callers that wait to be subscribed. -/
  subscribers : List Ticket
  /-- The callers that wait for the release. -/
  releasers : List Ticket
  /-- The watchers last reported. -/
  watchers : List Value
  deriving DecidableEq

namespace Entry

/-- The acknowledgement of an entry. -/
def ack (e : Entry) (entity : String) : Ack :=
  ⟨entity, e.watchers⟩

/-- Tell the callers that wait to be subscribed. -/
def tellSubscribers (e : Entry) (outcome : Except Fault Ack) : List Reply :=
  e.subscribers.map (·, .subscribed outcome)

/-- Tell the callers that wait for the release. -/
def tellReleasers (e : Entry) (outcome : Except Fault Unit) : List Reply :=
  e.releasers.map (·, .unsubscribed outcome)

/-- The request whose acknowledgement is awaited. -/
def operation (e : Entry) : Operation :=
  if e.status = .releasing then .unsubscribe else .subscribe

/-- Has the acknowledgement not come in time? -/
def isOverdue (e : Entry) (now : Nat) : Bool :=
  e.deadline.any fun d => decide (d ≤ now)

/-- A subscription that starts over on the next connection. -/
def demoted (e : Entry) : Entry :=
  { e with status := .pending, sent := false, deadline := none }

/-- Does the subscription wait to go out on a new connection? -/
def isUnsent (e : Entry) : Bool :=
  e.status = .pending && !e.sent

end Entry

/-- The subscriptions of a client. -/
structure Registry where
  /-- The time a subscribe request may take; zero means any time. -/
  subscribeTimeout : Nat
  /-- The time an unsubscribe request may take; zero means any time. -/
  unsubscribeTimeout : Nat
  /-- One entry per entity, in ascending order of the entities. -/
  entries : List (String × Entry)
  deriving DecidableEq

namespace Registry

/-- A registry without entries. -/
def new (subscribeTimeout unsubscribeTimeout : Nat) : Registry :=
  ⟨subscribeTimeout, unsubscribeTimeout, []⟩

/-! ## Access to the entries -/

/-- The entry of an entity. -/
def get? (r : Registry) (entity : String) : Option Entry :=
  (r.entries.find? fun e => e.1 = entity).map (·.2)

/-- Put an entry into a list, in order; one that was there is replaced. -/
def putEntry (entity : String) (entry : Entry) : List (String × Entry) → List (String × Entry)
  | [] => [(entity, entry)]
  | (id, e) :: rest =>
    if id = entity then (entity, entry) :: rest
    else if id < entity then (id, e) :: putEntry entity entry rest
    else (entity, entry) :: (id, e) :: rest

/-- Store the entry of an entity. -/
def put (r : Registry) (entity : String) (entry : Entry) : Registry :=
  { r with entries := putEntry entity entry r.entries }

/-- Drop the entry of an entity. -/
def drop (r : Registry) (entity : String) : Registry :=
  { r with entries := r.entries.filter fun e => e.1 ≠ entity }

/-- When an acknowledgement is overdue that may take the given time. -/
def deadlineAfter (now : Nat) (timeout : Nat) : Option Nat :=
  if timeout = 0 then none else some (now + timeout)

/-! ## Operations on one entity -/

/-- A new entry with one caller; with a connection its request goes out at once. -/
def fresh (r : Registry) (ticket : Ticket) (now : Nat) (connected : Bool) : Entry :=
  { status := .pending
    deadline := if connected then deadlineAfter now r.subscribeTimeout else none
    sent := connected
    subscribers := [ticket]
    releasers := []
    watchers := [] }

/-- A caller wants to be subscribed.  The result tells whether a request must be sent now.  An
active subscription answers at once, a pending one takes the caller in, and one that is being
released starts afresh. -/
def subscribe (r : Registry) (entity : String) (ticket : Ticket) (now : Nat)
    (connected : Bool) : Bool × List Reply × Registry :=
  match r.get? entity with
  | none => (connected, [], r.put entity (r.fresh ticket now connected))
  | some e =>
    match e.status with
    | .active => (false, [(ticket, .subscribed (.ok (e.ack entity)))], r)
    | .pending => (false, [], r.put entity { e with subscribers := e.subscribers ++ [ticket] })
    | .releasing =>
      (connected, e.tellReleasers (.ok ()), r.put entity (r.fresh ticket now connected))

/-- A caller wants the subscription released.  The result tells whether a request must be sent
now.  Without a connection, or while the subscription is pending, the entry is dropped at once and
the callers that wait for it are told that they were cancelled. -/
def unsubscribe (r : Registry) (entity : String) (ticket : Ticket) (now : Nat)
    (connected : Bool) : Bool × List Reply × Registry :=
  match r.get? entity with
  | none => (false, [(ticket, .unsubscribed (.ok ()))], r)
  | some e =>
    if e.status = .releasing then
      (false, [], r.put entity { e with releasers := e.releasers ++ [ticket] })
    else if e.status = .active ∧ connected then
      (true, [], r.put entity { e with
        status := .releasing
        deadline := deadlineAfter now r.unsubscribeTimeout
        releasers := e.releasers ++ [ticket] })
    else
      (connected && e.sent,
        e.tellSubscribers (.error .cancelled) ++ [(ticket, .unsubscribed (.ok ()))],
        r.drop entity)

/-- The server acknowledged a subscription.  The result is `false` if nobody waits for it. -/
def acknowledge (r : Registry) (entity : String) (watchers : List Value) :
    Bool × List Reply × Registry :=
  match r.get? entity with
  | none => (false, [], r)
  | some e =>
    if e.status = .pending then
      let active := { e with
        status := .active, deadline := none, watchers := watchers, subscribers := [] }
      (true, e.tellSubscribers (.ok ⟨entity, watchers⟩), r.put entity active)
    else (false, [], r)

/-- The server refused a subscription.  The result is `false` if nobody waits for it. -/
def reject (r : Registry) (entity why : String) : Bool × List Reply × Registry :=
  match r.get? entity with
  | none => (false, [], r)
  | some e =>
    if e.status = .pending then
      (true, e.tellSubscribers (.error (.subscriptionRejected entity why)), r.drop entity)
    else (false, [], r)

/-- The server released a subscription.  The result is `false` if nobody waits for it. -/
def release (r : Registry) (entity : String) : Bool × List Reply × Registry :=
  match r.get? entity with
  | none => (false, [], r)
  | some e =>
    if e.status = .releasing then (true, e.tellReleasers (.ok ()), r.drop entity)
    else (false, [], r)

/-- The server reported the watchers of an entity.  The result is `false` if it is unknown. -/
def setWatchers (r : Registry) (entity : String) (watchers : List Value) : Bool × Registry :=
  match r.get? entity with
  | none => (false, r)
  | some e => (true, r.put entity { e with watchers := watchers })

/-! ## Operations on all entities -/

/-- The earliest instant at which an acknowledgement is overdue. -/
def nextDeadline (r : Registry) : Option Nat :=
  r.entries.foldr (fun e next => Instant.earliest e.2.deadline next) none

/-- The entities whose acknowledgement is overdue, each with the request it belongs to. -/
def overdue (r : Registry) (now : Nat) : List (String × Operation) :=
  (r.entries.filter fun e => e.2.isOverdue now).map fun e => (e.1, e.2.operation)

/-- Tell the callers of an overdue entry. -/
def tellOverdue (entity : String) (e : Entry) : List Reply :=
  let fault := Fault.subscriptionTimeout entity e.operation
  e.tellSubscribers (.error fault) ++ e.tellReleasers (.error fault)

/-- Drop the entries whose acknowledgement is overdue.  The result lists them. -/
def expire (r : Registry) (now : Nat) :
    List (String × Operation) × List Reply × Registry :=
  (r.overdue now,
    (r.entries.filter fun e => e.2.isOverdue now).flatMap fun e => tellOverdue e.1 e.2,
    { r with entries := r.entries.filter fun e => !e.2.isOverdue now })

/-- The connection is gone.  What was being released is released; everything else becomes pending
and waits for the next connection. -/
def demoteAll (r : Registry) : List Reply × Registry :=
  ((r.entries.filter fun e => e.2.status = .releasing).flatMap fun e => e.2.tellReleasers (.ok ()),
    { r with entries :=
        (r.entries.filter fun e => e.2.status ≠ .releasing).map fun e => (e.1, e.2.demoted) })

/-- There is a connection: everything that waits for one goes out.  The result lists the entities
to subscribe, in ascending order. -/
def reissue (r : Registry) (now : Nat) : List String × Registry :=
  let deadline := deadlineAfter now r.subscribeTimeout
  ((r.entries.filter fun e => e.2.isUnsent).map (·.1),
    { r with entries := r.entries.map fun e =>
        if e.2.isUnsent then (e.1, { e.2 with sent := true, deadline := deadline }) else e })

/-- The entities that the server holds for this client, in ascending order. -/
def activeEntities (r : Registry) : List String :=
  (r.entries.filter fun e => e.2.status = .active).map (·.1)

/-- How the subscription of an entity stands. -/
def standing? (r : Registry) (entity : String) : Option Standing :=
  (r.get? entity).map fun e => ⟨entity, e.status, e.watchers⟩

/-- Fail every caller that waits to be subscribed; the entries stay. -/
def failSubscribers (r : Registry) (fault : Fault) : List Reply × Registry :=
  (r.entries.flatMap fun e => e.2.tellSubscribers (.error fault),
    { r with entries := r.entries.map fun e => (e.1, { e.2 with subscribers := [] }) })

/-- Drop every entry and fail every caller. -/
def clear (r : Registry) (fault : Fault) : List Reply × Registry :=
  (r.entries.flatMap fun e =>
      e.2.tellSubscribers (.error fault) ++ e.2.tellReleasers (.error fault),
    { r with entries := [] })

end Registry

end LiveSync
