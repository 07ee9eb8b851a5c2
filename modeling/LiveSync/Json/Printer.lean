import LiveSync.Decimal.Shortest
import LiveSync.Json.Value

/-!
# Writing JSON

`Value.render` writes a value without blanks, fields in the order of their keys.  A string escapes
the quote, the backslash and the control characters below U+0020, and nothing else.  A double is
written with the fewest digits that read back, always with a fraction or an exponent, so that it
never looks like an integer.
-/

namespace LiveSync.Json

open LiveSync.Decimal

/-! ## Strings -/

/-- The lower-case hexadecimal digit of a number below sixteen. -/
def hexDigit (n : Nat) : Char :=
  if n < 10 then Char.ofNat (48 + n) else Char.ofNat (87 + n)

/-- How a character is written inside a string. -/
def escapeChar (c : Char) : List Char :=
  if c = '"' then ['\\', '"']
  else if c = '\\' then ['\\', '\\']
  else if 32 ≤ c.toNat then [c]
  else if c = '\x08' then ['\\', 'b']
  else if c = '\t' then ['\\', 't']
  else if c = '\n' then ['\\', 'n']
  else if c = '\x0c' then ['\\', 'f']
  else if c = '\r' then ['\\', 'r']
  else ['\\', 'u', '0', '0', hexDigit (c.toNat / 16), hexDigit (c.toNat % 16)]

/-- A string between its quotes. -/
def stringChars (s : String) : List Char :=
  '"' :: (s.toList.flatMap escapeChar ++ ['"'])

/-! ## Numbers -/

/-- The decimal digits of a number. -/
def natChars (n : Nat) : List Char :=
  Nat.toDigits 10 n

/-- An integer, with a minus sign in front if it is negative. -/
def intChars (n : Int) : List Char :=
  if n < 0 then '-' :: natChars n.natAbs else natChars n.natAbs

/-- A decimal.  It is written positionally when its first digit stands for at least `10 ^ -5` and
at most `10 ^ 15`, else with an exponent, whose sign is always written. -/
def decimalChars (d : Numeral) : List Char :=
  let digits := natChars d.digits
  let point : Int := digits.length + d.exponent
  if 0 ≤ d.exponent ∧ point ≤ 16 then
    digits ++ List.replicate d.exponent.toNat '0' ++ ['.', '0']
  else if 0 < point ∧ point ≤ 16 then
    digits.take point.toNat ++ '.' :: digits.drop point.toNat
  else if -5 < point ∧ point ≤ 0 then
    '0' :: '.' :: (List.replicate (-point).toNat '0' ++ digits)
  else
    let sign := if point ≤ 0 then '-' else '+'
    let fraction := if digits.length = 1 then [] else '.' :: digits.drop 1
    digits.take 1 ++ fraction ++ 'e' :: sign :: natChars (point - 1).natAbs

/-- A double, in the fewest digits that read back. -/
def doubleChars (d : Double) : List Char :=
  if d.isNegative then '-' :: decimalChars (shortest d) else decimalChars (shortest d)

/-- A number. -/
def numberChars : Number → List Char
  | .integer n _ => intChars n
  | .double d => doubleChars d

/-! ## Values -/

mutual

/-- The characters of a value, without blanks. -/
def Value.chars : Value → List Char
  | .null => ['n', 'u', 'l', 'l']
  | .bool true => ['t', 'r', 'u', 'e']
  | .bool false => ['f', 'a', 'l', 's', 'e']
  | .number n => numberChars n
  | .string s => stringChars s
  | .array items => '[' :: (Value.itemChars items ++ [']'])
  | .object fields => '\x7b' :: (Value.fieldChars fields ++ ['\x7d'])

/-- The items of an array, with commas between them. -/
def Value.itemChars : List Value → List Char
  | [] => []
  | [v] => Value.chars v
  | v :: w :: rest => Value.chars v ++ ',' :: Value.itemChars (w :: rest)

/-- The fields of an object, with commas between them. -/
def Value.fieldChars : List (String × Value) → List Char
  | [] => []
  | [(k, v)] => stringChars k ++ ':' :: Value.chars v
  | (k, v) :: f :: rest =>
    stringChars k ++ ':' :: (Value.chars v ++ ',' :: Value.fieldChars (f :: rest))

end

/-- The compact text of a value. -/
def Value.render (v : Value) : String :=
  String.ofList v.chars

end LiveSync.Json
