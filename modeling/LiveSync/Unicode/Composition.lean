import LiveSync.Unicode.Property

/-!
# Composed text

A letter with marks can be written as one character or as several.  `compose` takes every character
apart, puts the marks on one letter into the order of their classes and then joins what can be
joined, so that texts that look the same are the same.

Korean syllables are made by a rule: a leading consonant, a vowel and perhaps a trailing consonant.
-/

namespace LiveSync.Unicode

/-! ## Pairs -/

/-- Characters that are made of two others: the made one, then the two. -/
def compositions : List (Char × Char × Char) :=
  (words compositionText).filterMap fun word =>
    match Text.splitOn '=' word with
    | [made, parts] =>
      match readChars '.' parts with
      | [a, b] => some (Char.ofNat (hexNumber made), a, b)
      | _ => none
    | _ => none

/-- The two characters that one is made of. -/
def pairOf? (c : Char) : Option (Char × Char) :=
  (compositions.find? fun e => e.1 = c).map (·.2)

/-- The character that two others make. -/
def made? (a b : Char) : Option Char :=
  (compositions.find? fun e => e.2.1 = a && e.2.2 = b).map (·.1)

/-! ## Korean syllables -/

/-- The first syllable. -/
def syllableBase : Nat := 0xAC00

/-- The first leading consonant, of 19. -/
def leadBase : Nat := 0x1100

/-- The first vowel, of 21. -/
def vowelBase : Nat := 0x1161

/-- The place before the first trailing consonant, of 27. -/
def trailBase : Nat := 0x11A7

/-- Is the character a Korean syllable? -/
def isSyllable (c : Char) : Bool :=
  syllableBase ≤ c.toNat && c.toNat < syllableBase + 19 * 21 * 28

/-- The letters of a Korean syllable. -/
def lettersOf (c : Char) : List Char :=
  let n := c.toNat - syllableBase
  let trail := n % 28
  [Char.ofNat (leadBase + n / 588), Char.ofNat (vowelBase + n % 588 / 28)]
    ++ (if trail = 0 then [] else [Char.ofNat (trailBase + trail)])

/-- The Korean syllable that two characters make: a leading consonant and a vowel, or a syllable
that has no trailing consonant and such a consonant. -/
def syllable? (a b : Char) : Option Char :=
  if leadBase ≤ a.toNat ∧ a.toNat < leadBase + 19 ∧ vowelBase ≤ b.toNat
      ∧ b.toNat < vowelBase + 21 then
    some (Char.ofNat (syllableBase + (a.toNat - leadBase) * 588 + (b.toNat - vowelBase) * 28))
  else if isSyllable a ∧ (a.toNat - syllableBase) % 28 = 0 ∧ trailBase < b.toNat
      ∧ b.toNat < trailBase + 28 then
    some (Char.ofNat (a.toNat + (b.toNat - trailBase)))
  else none

/-! ## Taking apart -/

/-- The characters that one is made of, at most `depth` steps down. -/
def takeApart : (depth : Nat) → Char → List Char
  | 0, c => [c]
  | depth + 1, c =>
    match pairOf? c with
    | some (a, b) => takeApart depth a ++ takeApart depth b
    | none => if isSyllable c then lettersOf c else [c]

/-- Insert a mark behind the marks of its class and of lower ones. -/
def insertMark (c : Char) : List Char → List Char
  | [] => [c]
  | d :: rest =>
    if combiningClass c < combiningClass d then c :: d :: rest else d :: insertMark c rest

/-- Put the marks on each letter into order; `marks` has those on the present one. -/
def order (marks : List Char) : List Char → List Char
  | [] => marks
  | c :: rest =>
    if combiningClass c = 0 then marks ++ c :: order [] rest else order (insertMark c marks) rest

/-- The text with every character taken apart. -/
def decompose (cs : List Char) : List Char :=
  order [] (cs.flatMap (takeApart 4))

/-! ## Joining -/

/-- The character that two others make, by the table or as a syllable. -/
def join? (a b : Char) : Option Char :=
  (made? a b).or (syllable? a b)

/-- Join each character to the letter before it, where the two make one.  `kept` has the marks that
stay on the letter, the last one first; a character is kept from the letter by a mark of its own
class or of a higher one. -/
def joinFrom (letter : Char) (kept : List Char) : List Char → List Char
  | [] => letter :: kept.reverse
  | c :: rest =>
    let free :=
      match kept with
      | [] => true
      | last :: _ => decide (combiningClass last < combiningClass c)
    match (if free then join? letter c else none) with
    | some made => joinFrom made kept rest
    | none =>
      if combiningClass c = 0 then letter :: (kept.reverse ++ joinFrom c [] rest)
      else joinFrom letter (c :: kept) rest

/-- Join what can be joined; marks in front of the first letter stay. -/
def join : List Char → List Char
  | [] => []
  | c :: rest => if combiningClass c = 0 then joinFrom c [] rest else c :: join rest

/-- The text in its composed form. -/
def compose (cs : List Char) : List Char :=
  join (decompose cs)

end LiveSync.Unicode
