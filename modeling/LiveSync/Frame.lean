import LiveSync.EventName
import LiveSync.Fault
import LiveSync.Json.Parser
import LiveSync.Json.Printer
import LiveSync.Json.Record
import LiveSync.Payload.Subject

/-!
# Frames

One text frame carries one named event.  It is written as an object with the fields `event` and
`data`, in this order, and read as such an object or as an array of name and payload.  A frame
without a name is still understood if its payload describes the watchers of an entity.
-/

namespace LiveSync

open LiveSync.Json

/-- A named event with its payload. -/
structure Envelope where
  /-- The name of the event. -/
  event : String
  /-- The payload, `null` if there is none. -/
  data : Value
  deriving DecidableEq

namespace Envelope

/-- Write an envelope as a value. -/
def toValue (e : Envelope) : Value :=
  .ofPairs [("event", .string e.event), ("data", e.data)]

/-- Read an envelope as a record; the payload may be missing. -/
def ofValue? (v : Value) : Option Envelope := do
  let fields ← v.record? ["event", "data"] 1
  return {
    event := ← fields.required? "event" Value.asString?
    data := ← fields.optional? "data" some .null }

/-- Read an envelope from its text.  Neither of its fields may be written twice. -/
def parse? (text : String) : Option Envelope :=
  match readPairs? text with
  | none => (Value.parse? text).bind ofValue?
  | some pairs =>
    let once (key : String) := pairs.countP (fun p => p.1 = key) ≤ 1
    if once "event" ∧ once "data" then ofValue? (.ofPairs pairs) else none

end Envelope

namespace Frame

/-- Longer frames are refused. -/
def maxBytes : Nat := 16 * 1024 * 1024

/-- The text of a frame. -/
def encode (e : Envelope) : String :=
  String.ofList ('\x7b' :: (stringChars "event" ++ ':' :: (stringChars e.event ++
    ',' :: (stringChars "data" ++ ':' :: (e.data.chars ++ ['\x7d'])))))

/-- A payload that came without an event name. -/
def salvage (payload : Value) : Except Fault Envelope :=
  if Payload.isWatcherUpdate payload then .ok ⟨EventName.watchersChanged, payload⟩
  else .error (.protocol "Frame has no event name")

/-- The event that a name and a payload make; the name must be a text and not empty. -/
def named (name : Option Value) (data : Value) (nameless : Value) : Except Fault Envelope :=
  match (name.bind Value.asString?).bind Payload.nonEmpty? with
  | some event => .ok ⟨event, data⟩
  | none => salvage nameless

/-- The event that a JSON value describes. -/
def ofValue (v : Value) : Except Fault Envelope :=
  match v with
  | .object fields =>
    let data := Fields.get? fields "data"
    let rest := Fields.erase (Fields.erase fields "data") "event"
    named (Fields.get? fields "event") (data.getD .null) (data.getD (.object rest))
  | .array (name :: items) =>
    let data := items.head?.getD .null
    named (some name) data data
  | _ => .error (.protocol "Frame is neither an envelope nor an event array")

/-- Read a frame. -/
def decode (text : String) : Except Fault Envelope :=
  if maxBytes < text.utf8ByteSize then
    let size := text.utf8ByteSize
    .error (.protocol s!"Frame too large ({size} bytes)")
  else
    match Value.parse? text with
    | some v => ofValue v
    | none => .error (.protocol "Malformed frame")

end Frame

end LiveSync
