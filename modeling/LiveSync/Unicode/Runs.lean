import LiveSync.Text.Split

/-!
# Tables of code points

A table assigns values to runs of code points.  It is written as words with blanks or line breaks
between them; a word begins with one code point, or with two and a hyphen between them, in
upper-case hexadecimal digits.
-/

namespace LiveSync.Unicode

/-! ## Reading -/

/-- The words of a table. -/
def words (text : String) : List (List Char) :=
  ((Text.splitOn ' ' (text.toList.map fun c => if c = '\n' then ' ' else c))).filter (· ≠ [])

/-- The value of a hexadecimal digit. -/
def hexDigit (c : Char) : Nat :=
  if c.isDigit then c.toNat - 48 else c.toNat - 55

/-- The number that hexadecimal digits write. -/
def hexNumber (cs : List Char) : Nat :=
  cs.foldl (fun n c => n * 16 + hexDigit c) 0

/-- May the character stand in a run? -/
def isRunChar (c : Char) : Bool :=
  c.isDigit || ('A' ≤ c && c ≤ 'F') || c = '-'

/-- Consecutive code points. -/
structure Run where
  /-- The first one. -/
  first : Nat
  /-- The last one. -/
  last : Nat
  deriving DecidableEq, Repr

/-- Read one code point, or two with a hyphen between them. -/
def Run.ofChars (cs : List Char) : Run :=
  match Text.splitOn '-' cs with
  | [a, b] => ⟨hexNumber a, hexNumber b⟩
  | _ => ⟨hexNumber cs, hexNumber cs⟩

/-- Does a run have the code point? -/
def Run.holds (r : Run) (n : Nat) : Bool :=
  r.first ≤ n && n ≤ r.last

/-! ## Sets of code points -/

/-- The runs that a table lists. -/
def readSet (text : String) : List Run :=
  (words text).map Run.ofChars

/-- Is the character in one of the runs? -/
def isIn (set : List Run) (c : Char) : Bool :=
  set.any fun r => r.holds c.toNat

/-! ## Values of code points -/

/-- Read runs, each with a colon and a decimal value behind it. -/
def readValues (text : String) : List (Run × Nat) :=
  (words text).map fun word =>
    (Run.ofChars (word.takeWhile isRunChar),
      ((word.dropWhile isRunChar).drop 1).foldl (fun n c => n * 10 + (c.toNat - 48)) 0)

/-- The value of a character; it is 0 outside of the runs. -/
def valueOf (values : List (Run × Nat)) (c : Char) : Nat :=
  ((values.find? fun e => e.1.holds c.toNat).map (·.2)).getD 0

/-! ## Lists of code points -/

/-- Read code points with a mark between them as characters. -/
def readChars (mark : Char) (cs : List Char) : List Char :=
  (Text.splitOn mark cs).map fun digits => Char.ofNat (hexNumber digits)

end LiveSync.Unicode
