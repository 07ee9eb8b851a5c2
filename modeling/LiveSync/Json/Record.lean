import LiveSync.Json.Value

/-!
# Reading typed records

A record is written as an object, whose unknown fields are ignored, or as an array of its fields
in the order of their declaration.  Integers are read from integers only, floats from any number.
-/

namespace LiveSync.Json

/-- The fields of a record with the given field names, of which the first `required` must be there
when it is written as an array. -/
def Value.record? (names : List String) (required : Nat) : Value → Option Fields
  | .object fields => some fields
  | .array items =>
    if required ≤ items.length ∧ items.length ≤ names.length then
      some (Fields.ofList (names.zip items))
    else none
  | _ => none

/-- The name of a constant: a text, or an object whose only field has the name and is `null`. -/
def Value.asName? : Value → Option String
  | .string name => some name
  | .object [(name, .null)] => some name
  | _ => none

/-- An unsigned integer below a bound. -/
def Value.asNatBelow? (bound : Nat) (v : Value) : Option Nat :=
  v.asNat?.filter (· < bound)

/-- Any number, as the nearest float. -/
def Value.asFloat? (v : Value) : Option Float :=
  v.asNumber?.map Number.toFloat

/-- A list of texts. -/
def Value.asStrings? (v : Value) : Option (List String) :=
  v.asArray?.bind fun items => items.mapM Value.asString?

namespace Fields

/-- A field that must be there. -/
def required? {α : Type} (fields : Fields) (key : String) (read : Value → Option α) : Option α :=
  (get? fields key).bind read

/-- A field with a default.  What is there must be readable. -/
def optional? {α : Type} (fields : Fields) (key : String) (read : Value → Option α)
    (default : α) : Option α :=
  match get? fields key with
  | some v => read v
  | none => some default

end Fields

/-- Read what may be `null`. -/
def Value.nullable {α : Type} (read : Value → Option α) : Value → Option (Option α)
  | .null => some none
  | v => (read v).map some

end LiveSync.Json
