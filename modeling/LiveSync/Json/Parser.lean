import LiveSync.Json.Value

/-!
# Reading JSON

`Value.parse?` reads one value with blanks around it and nothing else: no trailing comma, no lone
surrogate, no raw control character in a string.  Of fields with one key the last counts.  A
number without fraction and exponent that fits 64 bits is an integer, but `-0` and every other
number are doubles; a number beyond the doubles is refused.  Arrays and objects nest at most
`maxDepth` deep.

Every reader takes the characters that are left and gives back those that it leaves.
-/

namespace LiveSync.Json

open LiveSync.Decimal (Double)

/-- A reader takes a value off the front of the characters, or refuses them. -/
abbrev Reader (α : Type) := List Char → Option (α × List Char)

/-- Arrays and objects may nest this deep. -/
def maxDepth : Nat := 127

/-- The four blanks that may stand between tokens. -/
def isBlank (c : Char) : Bool :=
  c = ' ' || c = '\t' || c = '\n' || c = '\r'

/-- What follows the blanks. -/
def skipBlanks (cs : List Char) : List Char :=
  cs.dropWhile isBlank

/-- Take a fixed word off the front. -/
def expect (word : List Char) (cs : List Char) : Option (List Char) :=
  match word, cs with
  | [], cs => some cs
  | w :: ws, c :: cs => if w = c then expect ws cs else none
  | _ :: _, [] => none

/-! ## Numbers -/

/-- The value of a decimal digit. -/
def digitValue (c : Char) : Nat :=
  c.toNat - 48

/-- The greatest significand that is accumulated. -/
def maxSignificand : Nat := 0xffffffffffffffff

/-- Append digits to a significand for as long as it fits 64 bits.  The result also has the digits
that were left over. -/
def accumulate (significand : Nat) : List Char → Nat × List Char
  | [] => (significand, [])
  | c :: cs =>
    if significand * 10 + digitValue c ≤ maxSignificand then
      accumulate (significand * 10 + digitValue c) cs
    else (significand, c :: cs)

/-- The double `significand * 10 ^ exponent`, unless it is infinite.  The significand is rounded
to a double first and then scaled by one power of ten, or by two below `10 ^ -308`; a significand
of zero stays zero. -/
def scaled? (significand : Nat) (exponent : Int) : Option Float :=
  let f := significand.toUInt64.toFloat
  let n := exponent.natAbs
  if significand = 0 then some f
  else if 0 ≤ exponent then
    if n ≤ 308 then
      let x := f * Float.ofScientific 1 false n
      if x.isInf then none else some x
    else none
  else if n ≤ 308 then some (f / Float.ofScientific 1 false n)
  else if n ≤ 616 then
    some (f / Float.ofScientific 1 false 308 / Float.ofScientific 1 false (n - 308))
  else some 0.0

/-- A double with a sign in front. -/
def signedDouble? (negative : Bool) (significand : Nat) (exponent : Int) : Option Number := do
  let x ← scaled? significand exponent
  let d ← Double.ofFloat? (if negative then -x else x)
  return .double d

/-- An integer without fraction and exponent: a double if it is `-0` or does not fit. -/
def integer? (negative : Bool) (significand : Nat) : Option Number :=
  if negative then
    if significand = 0 then signedDouble? true 0 0
    else (Number.ofInt? (-significand)) <|> signedDouble? true significand 0
  else Number.ofInt? significand

/-- The exponent that follows `e` or `E`. -/
def readExponent (cs : List Char) : Option (Int × List Char) :=
  let (negative, cs) :=
    match cs with
    | '-' :: rest => (true, rest)
    | '+' :: rest => (false, rest)
    | _ => (false, cs)
  let (digits, rest) := cs.span Char.isDigit
  if digits.isEmpty then none
  else
    let n := digits.foldl (fun n c => n * 10 + digitValue c) 0
    some (if negative then -(n : Int) else n, rest)

/-- An exponent, if one follows, and the double it completes. -/
def finishDouble (negative : Bool) (significand : Nat) (exponent : Int) : Reader Number
  | 'e' :: cs | 'E' :: cs => do
    let (e, rest) ← readExponent cs
    return (← signedDouble? negative significand (exponent + e), rest)
  | cs => do return (← signedDouble? negative significand exponent, cs)

/-- The digits of the integer part: a single zero, or digits that do not begin with one. -/
def readDigits (cs : List Char) : Option (List Char × List Char) :=
  match cs.span Char.isDigit with
  | ([], _) => none
  | ('0' :: _ :: _, _) => none
  | (digits, rest) => some (digits, rest)

/-- A number without its sign. -/
def readUnsigned (negative : Bool) (cs : List Char) : Option (Number × List Char) := do
  let (digits, rest) ← readDigits cs
  let (significand, dropped) := accumulate 0 digits
  match rest with
  | '.' :: rest =>
    let (fraction, rest) := rest.span Char.isDigit
    if fraction.isEmpty then none
    else
      let (significand, ignored) := accumulate significand fraction
      let exponent : Int := (dropped.length : Int) - (fraction.length - ignored.length : Nat)
      finishDouble negative significand exponent rest
  | 'e' :: _ | 'E' :: _ => finishDouble negative significand dropped.length rest
  | rest =>
    if dropped.isEmpty then return (← integer? negative significand, rest)
    else finishDouble negative significand dropped.length rest

/-- A number. -/
def readNumber : Reader Number
  | '-' :: cs => readUnsigned true cs
  | cs => readUnsigned false cs

/-! ## Strings -/

/-- The value of a hexadecimal digit. -/
def hexValue? (c : Char) : Option Nat :=
  if c.isDigit then some (c.toNat - 48)
  else if 'a' ≤ c ∧ c ≤ 'f' then some (c.toNat - 87)
  else if 'A' ≤ c ∧ c ≤ 'F' then some (c.toNat - 55)
  else none

/-- The number that four hexadecimal digits write. -/
def hexWord? (a b c d : Char) : Option Nat := do
  return ((← hexValue? a) * 16 + (← hexValue? b)) * 256 + ((← hexValue? c) * 16 + (← hexValue? d))

/-- The character of a surrogate pair. -/
def surrogatePair? (high low : Nat) : Option Char :=
  if 0xD800 ≤ high ∧ high < 0xDC00 ∧ 0xDC00 ≤ low ∧ low < 0xE000 then
    some (Char.ofNat (0x10000 + (high - 0xD800) * 0x400 + (low - 0xDC00)))
  else none

/-- The character that a backslash and one more character write. -/
def simpleEscape? (c : Char) : Option Char :=
  match c with
  | '"' => some '"'
  | '\\' => some '\\'
  | '/' => some '/'
  | 'b' => some '\x08'
  | 'f' => some '\x0c'
  | 'n' => some '\n'
  | 'r' => some '\r'
  | 't' => some '\t'
  | _ => none

/-- What a string holds up to its closing quote; `done` has the characters read so far, the last
one first. -/
def readStringTail (done : List Char) : Reader String
  | [] => none
  | '"' :: cs => some (String.ofList done.reverse, cs)
  | '\\' :: 'u' :: a :: b :: c :: d :: cs =>
    match hexWord? a b c d with
    | none => none
    | some n =>
      if n < 0xD800 ∨ 0xE000 ≤ n then readStringTail (Char.ofNat n :: done) cs
      else
        match cs with
        | '\\' :: 'u' :: a :: b :: c :: d :: cs =>
          match hexWord? a b c d with
          | none => none
          | some low =>
            match surrogatePair? n low with
            | none => none
            | some c => readStringTail (c :: done) cs
        | _ => none
  | '\\' :: c :: cs =>
    match simpleEscape? c with
    | none => none
    | some c => readStringTail (c :: done) cs
  | c :: cs => if c.toNat < 32 then none else readStringTail (c :: done) cs

/-- A string between its quotes. -/
def readString : Reader String
  | '"' :: cs => readStringTail [] cs
  | _ => none

/-! ## Values -/

/-- The items of an array after its bracket was opened, or after a comma; `fuel` bounds their
number. -/
def readItems (item : Reader Value) (fuel : Nat) (done : List Value) (cs : List Char) :
    Option (List Value × List Char) :=
  match fuel with
  | 0 => none
  | fuel + 1 =>
    match item (skipBlanks cs) with
    | none => none
    | some (v, rest) =>
      match skipBlanks rest with
      | ',' :: rest => readItems item fuel (v :: done) rest
      | ']' :: rest => some ((v :: done).reverse, rest)
      | _ => none

/-- The fields of an object after its brace was opened, or after a comma, as they are written;
`fuel` bounds their number. -/
def readPairs (item : Reader Value) (fuel : Nat) (done : List (String × Value))
    (cs : List Char) : Option (List (String × Value) × List Char) :=
  match fuel with
  | 0 => none
  | fuel + 1 =>
    match readString (skipBlanks cs) with
    | none => none
    | some (key, rest) =>
      match skipBlanks rest with
      | ':' :: rest =>
        match item (skipBlanks rest) with
        | none => none
        | some (v, rest) =>
          match skipBlanks rest with
          | ',' :: rest => readPairs item fuel ((key, v) :: done) rest
          | '\x7d' :: rest => some (((key, v) :: done).reverse, rest)
          | _ => none
      | _ => none

/-- An object after its brace was opened, as the list of its fields. -/
def readObject (item : Reader Value) (fuel : Nat) (cs : List Char) :
    Option (List (String × Value) × List Char) :=
  match skipBlanks cs with
  | '\x7d' :: rest => some ([], rest)
  | cs => readPairs item fuel [] cs

/-- A value that is neither an array nor an object. -/
def readScalar : Reader Value
  | 'n' :: cs => (expect ['u', 'l', 'l'] cs).map (Value.null, ·)
  | 't' :: cs => (expect ['r', 'u', 'e'] cs).map (Value.bool true, ·)
  | 'f' :: cs => (expect ['a', 'l', 's', 'e'] cs).map (Value.bool false, ·)
  | '"' :: cs => (readStringTail [] cs).map fun (s, rest) => (Value.string s, rest)
  | cs => (readNumber cs).map fun (n, rest) => (Value.number n, rest)

/-- A value whose arrays and objects nest at most `depth` deep; `fuel` bounds the items of each. -/
def readValue (fuel : Nat) : (depth : Nat) → Reader Value
  | 0, '[' :: _ => none
  | 0, '\x7b' :: _ => none
  | depth + 1, '[' :: cs =>
    match skipBlanks cs with
    | ']' :: rest => some (.array [], rest)
    | cs => (readItems (readValue fuel depth) fuel [] cs).map fun (vs, rest) => (.array vs, rest)
  | depth + 1, '\x7b' :: cs =>
    (readObject (readValue fuel depth) fuel cs).map fun (ps, rest) =>
      (.object (Fields.ofList ps), rest)
  | _, cs => readScalar cs

/-- What a reader takes off a whole text, blanks around it aside. -/
def readWhole {α : Type} (reader : Reader α) (cs : List Char) : Option α :=
  match reader (skipBlanks cs) with
  | some (a, rest) => if (skipBlanks rest).isEmpty then some a else none
  | none => none

/-- Read a whole text as one value. -/
def Value.parse? (text : String) : Option Value :=
  let cs := text.toList
  readWhole (readValue cs.length maxDepth) cs

/-- Read a whole text as an object, and give its fields as they are written. -/
def readPairs? (text : String) : Option (List (String × Value)) :=
  let cs := text.toList
  readWhole (fun
    | '\x7b' :: cs => readObject (readValue cs.length (maxDepth - 1)) cs.length cs
    | _ => none) cs

end LiveSync.Json
