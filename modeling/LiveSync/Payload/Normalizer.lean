import LiveSync.Payload.KeyCase

/-!
# Normalizing payloads

The server writes field names in one case and listeners read them in another.  A normalizer
re-cases the names of a payload at every depth, in both directions.  An excluded field keeps its
name and its whole value; a key that is no identifier keeps its name alone.
-/

namespace LiveSync.Payload

open LiveSync.Json

/-- How field names are re-cased. -/
structure Normalizer where
  /-- The case on the wire. -/
  wire : KeyCase
  /-- The case that listeners see. -/
  internal : KeyCase
  /-- The fields that are left alone. -/
  excluded : List String

namespace Normalizer

/-- Snake case on the wire, camel case inside, nothing excluded. -/
def standard : Normalizer := ⟨.snake, .camel, []⟩

/-- Is the key on the list, as it is or in one of the two cases? -/
def isExcluded (n : Normalizer) (key : String) : Bool :=
  n.excluded.contains key || n.excluded.contains (toSnake key) || n.excluded.contains (toCamel key)

/-- The name of a field that is not excluded. -/
def rename (target : KeyCase) (key : String) : String :=
  if isIdentifier key then target.apply key else key

mutual

/-- Re-case the names of a value. -/
def transform (n : Normalizer) (target : KeyCase) : Value → Value
  | .object fields => .object (transformFields n target fields [])
  | .array items => .array (transformItems n target items)
  | .null => .null
  | .bool b => .bool b
  | .number x => .number x
  | .string s => .string s

/-- Re-case the names of each item. -/
def transformItems (n : Normalizer) (target : KeyCase) : List Value → List Value
  | [] => []
  | v :: vs => transform n target v :: transformItems n target vs

/-- Add re-cased fields to `done`, in order: of two that take one name the later stays. -/
def transformFields (n : Normalizer) (target : KeyCase) :
    List (String × Value) → Fields → Fields
  | [], done => done
  | (key, value) :: rest, done =>
    if n.isExcluded key then transformFields n target rest (done.insert key value)
    else
      transformFields n target rest (done.insert (rename target key) (transform n target value))

end

/-- A payload from the wire, in the case that listeners see. -/
def inbound (n : Normalizer) (v : Value) : Value :=
  n.transform n.internal v

/-- A payload of a caller, in the case of the wire. -/
def outbound (n : Normalizer) (v : Value) : Value :=
  n.transform n.wire v

end Normalizer

end LiveSync.Payload
