import LiveSync.Json.Value

/-!
# What a payload is about

The fields of the subscription protocol and of the handshake, as they are named inside a client.
-/

namespace LiveSync.Payload

open LiveSync.Json

/-- The text, unless it is empty. -/
def nonEmpty? (s : String) : Option String :=
  if s.isEmpty then none else some s

/-- The entity that a payload names: its `entityId`, or its `id` if it has no `entityId` at all. -/
def entityId? (payload : Value) : Option String :=
  (((payload.get? "entityId").or (payload.get? "id")).bind Value.asString?).bind nonEmpty?

/-- The list of watchers that a payload carries. -/
def watchers? (payload : Value) : Option (List Value) :=
  (payload.get? "watchers").bind Value.asArray?

/-- The socket id that a handshake assigns: the first of three fields that holds a text, unless
that text is empty. -/
def socketId? (payload : Value) : Option String :=
  (((payload.getString? "sid").or (payload.getString? "socketId")).or
    (payload.getString? "socket_id")).bind nonEmpty?

/-- Does a payload that came without an event name describe the watchers of an entity? -/
def isWatcherUpdate (payload : Value) : Bool :=
  let names (key : String) := ((payload.getString? key).bind nonEmpty?).isSome
  (names "entity_id" || names "entityId") && (watchers? payload).isSome

/-- The payload of a request about one entity. -/
def ofEntity (entity : String) : Value :=
  .ofPairs [("entityId", .string entity)]

end LiveSync.Payload
