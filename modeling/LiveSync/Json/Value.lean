import LiveSync.Decimal.Double

/-!
# JSON values

The payloads that travel between a client and the sync server.  A number is a 64-bit integer,
signed or unsigned, or a finite double; a double keeps its bits, so `0.0` and `-0.0` are two
values (`Value.same` identifies them).  The fields of an object are a list of pairs in strictly
ascending order of their keys: `Fields.insert` keeps that order and overwrites a key that is
already there.
-/

namespace LiveSync.Json

open LiveSync.Decimal (Double)

/-! ## Numbers -/

/-- A JSON number: an integer of 64 bits, signed or unsigned, or a finite double. -/
inductive Number where
  /-- An integer that fits 64 bits with or without a sign. -/
  | integer (value : Int) (inRange : -0x8000000000000000 ≤ value ∧ value < 0x10000000000000000)
  /-- Any other number. -/
  | double (value : Double)
  deriving DecidableEq

namespace Number

/-- The number of an integer that fits. -/
def ofInt? (n : Int) : Option Number :=
  if h : -0x8000000000000000 ≤ n ∧ n < 0x10000000000000000 then some (.integer n h) else none

/-- The unsigned integer a number is, if it is one. -/
def asNat? : Number → Option Nat
  | .integer n _ => if 0 ≤ n then some n.toNat else none
  | .double _ => none

/-- The nearest float. -/
def toFloat : Number → Float
  | .integer (.ofNat n) _ => n.toUInt64.toFloat
  | .integer (.negSucc n) _ => -(n + 1).toUInt64.toFloat
  | .double d => d.toFloat

/-- Equality as numbers of one kind: an integer never equals a double. -/
def same : Number → Number → Bool
  | .integer m _, .integer n _ => m == n
  | .double a, .double b => a.same b
  | _, _ => false

end Number

/-! ## Values -/

/-- A JSON value.  The fields of an object are listed in strictly ascending order of their keys. -/
inductive Value where
  | null
  | bool (b : Bool)
  | number (n : Number)
  | string (s : String)
  | array (items : List Value)
  | object (fields : List (String × Value))

/-- The fields of an object, in strictly ascending order of their keys. -/
abbrev Fields := List (String × Value)

namespace Fields

/-- The value stored under a key. -/
def get? (fields : Fields) (key : String) : Option Value :=
  match fields with
  | [] => none
  | (k, v) :: rest => if k = key then some v else get? rest key

/-- Store a value under a key, in order; a value that was there is replaced. -/
def insert (fields : Fields) (key : String) (value : Value) : Fields :=
  match fields with
  | [] => [(key, value)]
  | (k, v) :: rest =>
    if k = key then (key, value) :: rest
    else if k < key then (k, v) :: insert rest key value
    else (key, value) :: (k, v) :: rest

/-- Forget a key. -/
def erase (fields : Fields) (key : String) : Fields :=
  match fields with
  | [] => []
  | (k, v) :: rest => if k = key then rest else (k, v) :: erase rest key

/-- The fields of a list of pairs: the last value of a key counts. -/
def ofList (pairs : List (String × Value)) : Fields :=
  pairs.foldl (fun fields pair => fields.insert pair.1 pair.2) []

end Fields

/-! ## Decidable equality -/

mutual

/-- Are two values the same, bit for bit? -/
def Value.decEq : (a b : Value) → Decidable (a = b)
  | .null, .null => isTrue rfl
  | .bool a, .bool b => if h : a = b then isTrue (h ▸ rfl) else isFalse (by simpa using h)
  | .number a, .number b => if h : a = b then isTrue (h ▸ rfl) else isFalse (by simpa using h)
  | .string a, .string b => if h : a = b then isTrue (h ▸ rfl) else isFalse (by simpa using h)
  | .array a, .array b =>
    match Value.decEqItems a b with
    | isTrue h => isTrue (h ▸ rfl)
    | isFalse h => isFalse (by simpa using h)
  | .object a, .object b =>
    match Value.decEqFields a b with
    | isTrue h => isTrue (h ▸ rfl)
    | isFalse h => isFalse (by simpa using h)
  | .null, .bool _ | .null, .number _ | .null, .string _ | .null, .array _ | .null, .object _
  | .bool _, .null | .bool _, .number _ | .bool _, .string _ | .bool _, .array _
  | .bool _, .object _ | .number _, .null | .number _, .bool _ | .number _, .string _
  | .number _, .array _ | .number _, .object _ | .string _, .null | .string _, .bool _
  | .string _, .number _ | .string _, .array _ | .string _, .object _ | .array _, .null
  | .array _, .bool _ | .array _, .number _ | .array _, .string _ | .array _, .object _
  | .object _, .null | .object _, .bool _ | .object _, .number _ | .object _, .string _
  | .object _, .array _ => isFalse (by simp)

/-- Are two lists of values the same? -/
def Value.decEqItems : (a b : List Value) → Decidable (a = b)
  | [], [] => isTrue rfl
  | [], _ :: _ => isFalse (by simp)
  | _ :: _, [] => isFalse (by simp)
  | x :: xs, y :: ys =>
    match Value.decEq x y, Value.decEqItems xs ys with
    | isTrue h, isTrue hs => isTrue (h ▸ hs ▸ rfl)
    | isFalse h, _ => isFalse (by simp [h])
    | _, isFalse hs => isFalse (by simp [hs])

/-- Are two lists of fields the same? -/
def Value.decEqFields : (a b : List (String × Value)) → Decidable (a = b)
  | [], [] => isTrue rfl
  | [], _ :: _ => isFalse (by simp)
  | _ :: _, [] => isFalse (by simp)
  | (k, x) :: xs, (l, y) :: ys =>
    if hk : k = l then
      match Value.decEq x y, Value.decEqFields xs ys with
      | isTrue h, isTrue hs => isTrue (hk ▸ h ▸ hs ▸ rfl)
      | isFalse h, _ => isFalse (by simp [h])
      | _, isFalse hs => isFalse (by simp [hs])
    else isFalse (by simp [hk])

end

instance : DecidableEq Value := Value.decEq

/-! ## Equality up to the sign of zero -/

mutual

/-- Equality of values in which the two zeros of the doubles are one number. -/
def Value.same : Value → Value → Bool
  | .null, .null => true
  | .bool a, .bool b => a == b
  | .number a, .number b => a.same b
  | .string a, .string b => a == b
  | .array a, .array b => Value.sameItems a b
  | .object a, .object b => Value.sameFields a b
  | _, _ => false

/-- Equality of lists of values, item by item. -/
def Value.sameItems : List Value → List Value → Bool
  | [], [] => true
  | x :: xs, y :: ys => Value.same x y && Value.sameItems xs ys
  | _, _ => false

/-- Equality of objects, field by field. -/
def Value.sameFields : List (String × Value) → List (String × Value) → Bool
  | [], [] => true
  | (k, x) :: xs, (l, y) :: ys => k == l && Value.same x y && Value.sameFields xs ys
  | _, _ => false

end

/-! ## Looking into a value -/

namespace Value

instance : Inhabited Value := ⟨.null⟩

/-- The field of an object, if the value is an object that has it. -/
def get? (v : Value) (key : String) : Option Value :=
  match v with
  | .object fields => Fields.get? fields key
  | _ => none

/-- The text of a string value. -/
def asString? : Value → Option String
  | .string s => some s
  | _ => none

/-- The truth value of a boolean. -/
def asBool? : Value → Option Bool
  | .bool b => some b
  | _ => none

/-- The items of an array. -/
def asArray? : Value → Option (List Value)
  | .array items => some items
  | _ => none

/-- The fields of an object. -/
def asObject? : Value → Option Fields
  | .object fields => some fields
  | _ => none

/-- The number of a number value. -/
def asNumber? : Value → Option Number
  | .number n => some n
  | _ => none

/-- The unsigned integer a value is, if it is one. -/
def asNat? (v : Value) : Option Nat :=
  v.asNumber?.bind Number.asNat?

/-- The field of an object, as text. -/
def getString? (v : Value) (key : String) : Option String :=
  (v.get? key).bind asString?

/-- An object from pairs: the last value of a key counts. -/
def ofPairs (pairs : List (String × Value)) : Value :=
  .object (Fields.ofList pairs)

/-- An unsigned integer as a value, exact below 2^64 and the nearest double above. -/
def ofNat (n : Nat) : Value :=
  if h : n < 0x10000000000000000 then .number (.integer n ⟨by omega, by omega⟩)
  else
    match Double.ofFloat? (Float.ofNat n) with
    | some d => .number (.double d)
    | none => .null

/-- A float as a value; infinities and NaN have no number and become `null`. -/
def ofFloat (x : Float) : Value :=
  match Double.ofFloat? x with
  | some d => .number (.double d)
  | none => .null

/-- An optional value, `null` when there is none. -/
def ofOption {α : Type} (f : α → Value) : Option α → Value
  | some a => f a
  | none => .null

end Value

end LiveSync.Json
