import LiveSync.Idna.Mapping
import LiveSync.Unicode.Composition

/-!
# Labels of domain names

When a label may stand in a domain name: all its characters may, it is composed, it does not begin
with a mark, joiners stand only where they make a difference, and in a name with letters that are
written from right to left it has one direction.
-/

namespace LiveSync.Idna

open LiveSync.Unicode

/-! ## Joiners -/

/-- A mark that keeps two letters from joining. -/
def nonJoiner : Char := Char.ofNat 0x200C

/-- A mark that makes two letters join. -/
def joiner : Char := Char.ofNat 0x200D

/-- Does a joiner make a difference after a vowel-killing sign? -/
def followsVirama (before : List Char) : Bool :=
  match before with
  | c :: _ => isVirama c
  | [] => false

/-- Do the letters on both sides, with what joining passes over left out, join without a mark
between them?  `before` is reversed. -/
def partsJoined (before after : List Char) : Bool :=
  match before.dropWhile isTransparent, after.dropWhile isTransparent with
  | a :: _, b :: _ => joinsAfter a && joinsBefore b
  | _, _ => false

/-- Do all joiners make a difference?  `before` has the characters in front, the last one first. -/
def joinersFit (before : List Char) : List Char → Bool
  | [] => true
  | c :: rest =>
    (if c = joiner then followsVirama before
      else if c = nonJoiner then followsVirama before || partsJoined before rest
      else true)
      && joinersFit (c :: before) rest

/-! ## Direction -/

/-- Is the character written from right to left, as a letter or a number? -/
def isRightward (c : Char) : Bool :=
  direction c = .right || direction c = .arabicNumber

/-- The directions that a label from left to right may have. -/
def leftDirections : List Direction :=
  [.left, .europeanNumber, .sign, .neutral, .mark]

/-- The directions that a label from right to left may have. -/
def rightDirections : List Direction :=
  [.right, .arabicNumber, .europeanNumber, .sign, .neutral, .mark]

/-- The direction of the last character that is no mark. -/
def lastDirection? (ds : List Direction) : Option Direction :=
  (ds.reverse.dropWhile (· = .mark)).head?

/-- Does the label have one direction?  One from right to left may not mix the two kinds of
digits. -/
def hasOneDirection (label : List Char) : Bool :=
  let ds := label.map direction
  match ds.head? with
  | none => true
  | some .left =>
    ds.all leftDirections.contains
      && (lastDirection? ds).any [Direction.left, .europeanNumber].contains
  | some .right =>
    ds.all rightDirections.contains
      && (lastDirection? ds).any [Direction.right, .europeanNumber, .arabicNumber].contains
      && !(ds.contains .europeanNumber && ds.contains .arabicNumber)
  | some _ => false

/-! ## Validity -/

/-- May the label stand in a domain name?  In a name with letters from right to left `directed` is
set. -/
def isValidLabel (directed : Bool) (label : List Char) : Bool :=
  label.all isPlain && compose label = label && !(label.head?.any isMark) && joinersFit [] label
    && (!directed || hasOneDirection label)

end LiveSync.Idna
