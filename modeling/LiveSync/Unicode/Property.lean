import LiveSync.Unicode.PropertyTable
import LiveSync.Unicode.Runs

/-!
# Properties of characters

Combining marks, the direction of writing and the way letters join, for the characters that may
stand in a domain name.
-/

namespace LiveSync.Unicode

/-! ## Marks -/

/-- The runs of combining marks. -/
def markRuns : List Run := readSet markText

/-- Is the character a combining mark? -/
def isMark (c : Char) : Bool :=
  isIn markRuns c

/-- The runs of the combining classes. -/
def combiningRuns : List (Run × Nat) := readValues combiningText

/-- The combining class of a character, 0 for one that starts afresh. -/
def combiningClass (c : Char) : Nat :=
  valueOf combiningRuns c

/-- Is the character a sign that takes the vowel from the letter before it? -/
def isVirama (c : Char) : Bool :=
  combiningClass c = 9

/-! ## Direction -/

/-- The directions of characters, as far as domain names tell them apart. -/
inductive Direction where
  /-- A letter written from left to right. -/
  | left
  /-- A letter written from right to left. -/
  | right
  /-- A digit as in Arabic. -/
  | arabicNumber
  /-- A digit as in Europe. -/
  | europeanNumber
  /-- A sign beside digits. -/
  | sign
  /-- No direction of its own. -/
  | neutral
  /-- A mark, which takes the direction of what it stands on. -/
  | mark
  /-- A separator or a blank. -/
  | separator
  deriving DecidableEq, Repr

/-- The runs of each direction but the first one. -/
def directionRuns : List (Direction × List Run) :=
  [(.right, readSet rightToLeftText), (.right, readSet arabicLetterText),
    (.arabicNumber, readSet arabicNumberText), (.europeanNumber, readSet europeanNumberText),
    (.sign, readSet europeanSignText), (.neutral, readSet neutralText),
    (.mark, readSet nonspacingText), (.separator, readSet separatorText)]

/-- The direction of a character. -/
def direction (c : Char) : Direction :=
  ((directionRuns.find? fun e => isIn e.2 c).map (·.1)).getD .left

/-! ## Joining -/

/-- The letters that join with the one that follows. -/
def joinsAfterRuns : List Run := readSet leftJoiningText ++ readSet dualJoiningText

/-- The letters that join with the one before. -/
def joinsBeforeRuns : List Run := readSet rightJoiningText ++ readSet dualJoiningText

/-- The characters that joining passes over. -/
def transparentRuns : List Run := readSet transparentText

/-- Does the letter join with the one that follows? -/
def joinsAfter (c : Char) : Bool :=
  isIn joinsAfterRuns c

/-- Does the letter join with the one before? -/
def joinsBefore (c : Char) : Bool :=
  isIn joinsBeforeRuns c

/-- Does joining pass over the character? -/
def isTransparent (c : Char) : Bool :=
  isIn transparentRuns c

end LiveSync.Unicode
