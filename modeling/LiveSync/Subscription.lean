import LiveSync.Fault
import LiveSync.Json.Record

/-!
# Subscriptions

How far the subscription of one entity has come, and what callers are shown of it.
-/

namespace LiveSync

open LiveSync.Json

/-- How far a subscription has come. -/
inductive Status where
  /-- Asked for, or queued until there is a connection. -/
  | pending
  /-- Acknowledged by the server. -/
  | active
  /-- Its release was asked for. -/
  | releasing
  deriving DecidableEq, Repr

/-- The word for a status. -/
def Status.name : Status → String
  | .pending => "pending"
  | .active => "active"
  | .releasing => "pending_unsubscribe"

/-- The status that a word stands for. -/
def Status.ofName? (name : String) : Option Status :=
  [Status.pending, .active, .releasing].find? fun s => s.name = name

/-- The server's acknowledgement of a subscription. -/
structure Ack where
  /-- The entity subscribed to. -/
  entity : String
  /-- Who watches it. -/
  watchers : List Value
  deriving DecidableEq

/-- What callers see of a subscription.  The time at which it was asked for last, which callers may
read too, is left out: it decides nothing. -/
structure Standing where
  /-- The entity. -/
  entity : String
  /-- How far the subscription has come. -/
  status : Status
  /-- The watchers last reported. -/
  watchers : List Value
  deriving DecidableEq

/-- What is kept of a subscription outside a client. -/
structure SubscriptionInfo extends Standing where
  /-- When it was asked for last, in milliseconds of the epoch. -/
  requestedAtMs : Nat
  deriving DecidableEq

/-- What a caller learns. -/
inductive Answer where
  /-- The outcome of subscribing. -/
  | subscribed (outcome : Except Fault Ack)
  /-- The outcome of unsubscribing. -/
  | unsubscribed (outcome : Except Fault Unit)
  /-- The outcome of sending an event. -/
  | emitted (outcome : Except Fault Unit)
  /-- How the subscription stands, if there is one. -/
  | info (standing : Option Standing)

/-! ## Records -/

/-- Read the word for a status. -/
def Status.ofValue? (v : Value) : Option Status :=
  v.asName?.bind Status.ofName?

/-- Read an acknowledgement; the watchers may be missing. -/
def Ack.ofValue? (v : Value) : Option Ack := do
  let fields ← v.record? ["entity_id", "watchers"] 1
  return {
    entity := ← fields.required? "entity_id" Value.asString?
    watchers := ← fields.optional? "watchers" Value.asArray? [] }

/-- Write how a subscription stands. -/
def Standing.toValue (s : Standing) : Value :=
  .ofPairs [("entity_id", .string s.entity), ("status", .string s.status.name),
    ("watchers", .array s.watchers)]

/-- Write an acknowledgement. -/
def Ack.toValue (a : Ack) : Value :=
  .ofPairs [("entity_id", .string a.entity), ("watchers", .array a.watchers)]

/-- Read what is kept of a subscription. -/
def SubscriptionInfo.ofValue? (v : Value) : Option SubscriptionInfo := do
  let fields ← v.record? ["entity_id", "status", "requested_at_ms", "watchers"] 4
  return {
    entity := ← fields.required? "entity_id" Value.asString?
    status := ← fields.required? "status" Status.ofValue?
    requestedAtMs := ← fields.required? "requested_at_ms" (Value.asNatBelow? 0x10000000000000000)
    watchers := ← fields.required? "watchers" Value.asArray? }

/-- Write what is kept of a subscription. -/
def SubscriptionInfo.toValue (i : SubscriptionInfo) : Value :=
  .ofPairs [("entity_id", .string i.entity), ("status", .string i.status.name),
    ("requested_at_ms", .ofNat i.requestedAtMs), ("watchers", .array i.watchers)]

end LiveSync
