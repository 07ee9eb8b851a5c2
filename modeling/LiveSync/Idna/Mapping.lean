import LiveSync.Idna.MappingTable
import LiveSync.Unicode.Runs

/-!
# Mapping the characters of domain names

Before a domain name is looked at, capital letters become small ones, characters that only look
different become the plain ones, and characters without meaning are dropped.
-/

namespace LiveSync.Idna

open LiveSync.Unicode

/-- What becomes of a character. -/
inductive Fate where
  /-- It stays. -/
  | kept
  /-- These take its place; none if it is dropped. -/
  | replaced (cs : List Char)
  /-- It may not stand in a domain name. -/
  | refused
  deriving DecidableEq, Repr

/-- What a word of the table says about the code points of a run. -/
inductive Rule where
  /-- Each one becomes the one as far from `target` as it is from the first. -/
  | shift (target : Nat)
  /-- Every second one becomes the one as far from `target` as it is from the first. -/
  | shiftSecond (target : Nat)
  /-- They become these, one for one. -/
  | become (targets : List (List Char))
  /-- They are dropped. -/
  | drop
  /-- They are refused. -/
  | refuse
  deriving DecidableEq, Repr

/-- Read a word of the table. -/
def readRule (word : List Char) : Run × Rule :=
  let run := Run.ofChars (word.takeWhile isRunChar)
  match word.dropWhile isRunChar with
  | '>' :: target => (run, .shift (hexNumber target))
  | '/' :: target => (run, .shiftSecond (hexNumber target))
  | '=' :: targets =>
    let list := (Text.splitOn ',' targets).map (readChars '.')
    (⟨run.first, run.first + list.length - 1⟩, .become list)
  | '~' :: _ => (run, .drop)
  | _ => (run, .refuse)

/-- The rules of the table. -/
def rules : List (Run × Rule) := (words mappingText).map readRule

/-- What a rule makes of the character that stands `place` behind the first of its run. -/
def Rule.apply (place : Nat) : Rule → Fate
  | shift target => .replaced [Char.ofNat (target + place)]
  | shiftSecond target =>
    if place % 2 = 0 then .replaced [Char.ofNat (target + place)] else .kept
  | become targets => .replaced (targets.getD place [])
  | drop => .replaced []
  | refuse => .refused

/-- What becomes of a character by some rules: a run of which only every second one changes may
have others in between. -/
def fateBy (n : Nat) : List (Run × Rule) → Fate
  | [] => .kept
  | (run, rule) :: rest =>
    if run.holds n then
      match rule.apply (n - run.first) with
      | .kept => fateBy n rest
      | fate => fate
    else fateBy n rest

/-- What becomes of a character. -/
def fate (c : Char) : Fate :=
  fateBy c.toNat rules

/-- Map every character, unless one is refused. -/
def mapChars? : List Char → Option (List Char)
  | [] => some []
  | c :: rest =>
    match fate c with
    | .kept => (mapChars? rest).map (c :: ·)
    | .replaced cs => (mapChars? rest).map (cs ++ ·)
    | .refused => none

/-- May the character stand in a domain name as it is? -/
def isPlain (c : Char) : Bool :=
  fate c = .kept

end LiveSync.Idna
