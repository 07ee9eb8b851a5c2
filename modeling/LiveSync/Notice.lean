import LiveSync.Json.Record
import LiveSync.Text.Blank

/-!
# Notices

The payloads of the events that a client publishes about its own connection: why it ended, and
what went wrong.
-/

namespace LiveSync

open LiveSync.Json

/-- Why a connection ended. -/
structure DisconnectReason where
  /-- The description. -/
  message : String
  /-- The close code of the websocket, if there was one. -/
  code : Option Nat := none
  deriving DecidableEq, Repr

namespace DisconnectReason

/-- The reason as one line. -/
def text (r : DisconnectReason) : String :=
  match r.code with
  | some code => r.message ++ " (code: " ++ toString code ++ ")"
  | none => r.message

/-- The reason as a payload; a missing code is left out. -/
def toValue (r : DisconnectReason) : Value :=
  match r.code with
  | some code => .ofPairs [("message", .string r.message), ("code", .ofNat code)]
  | none => .ofPairs [("message", .string r.message)]

/-- Read a reason. -/
def ofValue? (v : Value) : Option DisconnectReason := do
  let fields ← v.record? ["message", "code"] 2
  return {
    message := ← fields.required? "message" Value.asString?
    code := ← fields.optional? "code" (Value.nullable (Value.asNatBelow? 0x10000)) none }

/-- Does the server's reason mean that it will not take the credential again?  Case and blanks
around it do not matter. -/
def endsSession (message : String) : Bool :=
  ["io server disconnect", "unauthorized"].contains (Text.asciiLower (Text.trim message))

end DisconnectReason

/-- Something went wrong with the connection. -/
structure ConnectionError where
  /-- What went wrong. -/
  message : String
  /-- May reconnecting still succeed? -/
  recoverable : Bool
  deriving DecidableEq, Repr

namespace ConnectionError

/-- The error as a payload. -/
def toValue (e : ConnectionError) : Value :=
  .ofPairs [("message", .string e.message), ("recoverable", .bool e.recoverable)]

/-- Read an error. -/
def ofValue? (v : Value) : Option ConnectionError := do
  let fields ← v.record? ["message", "recoverable"] 2
  return {
    message := ← fields.required? "message" Value.asString?
    recoverable := ← fields.required? "recoverable" Value.asBool? }

end ConnectionError

end LiveSync
