/-!
# Writing any characters in ASCII

A label is written as its ASCII characters, a hyphen, and then numbers for the others, in ascending
order of the characters.  Each number says how far it is to the next character and place, counting
all places of all characters in between.  Numbers are written in letters and digits, the least
significant digit first; which digit ends a number depends on its place and on the numbers before.
-/

namespace LiveSync.Idna.Punycode

/-! ## Digits -/

/-- The digit of a value below 36: letters come before digits. -/
def digit (n : Nat) : Char :=
  if n < 26 then Char.ofNat (97 + n) else Char.ofNat (22 + n)

/-- The value of a digit. -/
def digitValue? (c : Char) : Option Nat :=
  if c.isLower then some (c.toNat - 97)
  else if c.isUpper then some (c.toNat - 65)
  else if c.isDigit then some (c.toNat - 22)
  else none

/-- The least value of a digit at some place that does not end a number.  Places count in steps
of 36. -/
def threshold (bias place : Nat) : Nat :=
  if place ≤ bias then 1 else if bias + 26 ≤ place then 26 else place - bias

/-- Divide by 35 until at most 455 is left; the steps count 36 each. -/
def taper (delta steps : Nat) : Nat × Nat :=
  if 455 < delta then taper (delta / 35) (steps + 36) else (delta, steps)
termination_by delta
decreasing_by omega

/-- The bias of the number after one that was `delta`, when `count` characters are there. -/
def adapt (delta count : Nat) (first : Bool) : Nat :=
  let delta := if first then delta / 700 else delta / 2
  let (rest, steps) := taper (delta + delta / count) 0
  steps + 36 * rest / (rest + 38)

/-! ## Reading -/

/-- Read a number whose digits from here on weigh `weight` and more. -/
def readNumber (bias : Nat) : (place weight value : Nat) → List Char → Option (Nat × List Char)
  | _, _, _, [] => none
  | place, weight, value, c :: rest =>
    match digitValue? c with
    | none => none
    | some d =>
      let t := threshold bias place
      let value := value + d * weight
      if d < t then some (value, rest)
      else readNumber bias (place + 36) (weight * (36 - t)) value rest

/-- A code point as a character. -/
def charOf? (n : Nat) : Option Char :=
  if n.isValidChar then some (Char.ofNat n) else none

/-- Insert the characters that numbers stand for into `done`.  The next one is inserted at the
earliest at the place and with the code point given; `fuel` bounds the number of them. -/
def insertAll (bias place code : Nat) (done : List Char) :
    (fuel : Nat) → List Char → Option (List Char)
  | _, [] => some done
  | 0, _ => none
  | fuel + 1, cs =>
    match readNumber bias 36 1 0 cs with
    | none => none
    | some (delta, rest) =>
      let count := done.length + 1
      let code' := code + (place + delta) / count
      let place' := (place + delta) % count
      match charOf? code' with
      | none => none
      | some c =>
        insertAll (adapt delta count (done.all (·.toNat < 128))) (place' + 1) code'
          (done.take place' ++ c :: done.drop place') fuel rest

/-- Read a label. -/
def decode? (cs : List Char) : Option (List Char) :=
  let tail := (cs.reverse.takeWhile (· ≠ '-')).reverse
  let front := cs.take (cs.length - tail.length - 1)
  let numbers := if front.isEmpty then cs else tail
  if cs.all (·.toNat < 128) then insertAll 72 0 128 front numbers.length numbers else none

/-! ## Writing -/

/-- Write a number. -/
def writeNumber (bias place n : Nat) : List Char :=
  let t := threshold bias place
  if n < t then [digit n]
  else digit (t + (n - t) % (36 - t)) :: writeNumber bias (place + 36) ((n - t) / (36 - t))
termination_by n
decreasing_by
  rename_i h
  have positive : 0 < threshold bias place := by
    unfold threshold
    split
    · omega
    · split <;> omega
  have smaller := Nat.div_le_self (n - threshold bias place) (36 - threshold bias place)
  omega

/-- A label that is being written. -/
structure Writing where
  /-- What is written so far. -/
  done : List Char
  /-- How many places were passed since the last number. -/
  delta : Nat
  /-- The bias of the next number. -/
  bias : Nat
  /-- How many characters are written. -/
  count : Nat

/-- Pass one character of the label on the way to those with a code point. -/
def Writing.pass (basic code : Nat) (w : Writing) (c : Char) : Writing :=
  if c.toNat < code then { w with delta := w.delta + 1 }
  else if c.toNat = code then
    { done := w.done ++ writeNumber w.bias 36 w.delta
      delta := 0
      bias := adapt w.delta (w.count + 1) (w.count = basic)
      count := w.count + 1 }
  else w

/-- Write the characters of a label with the given code points, which are ascending; `code` is the
least that comes into question. -/
def writeCodes (label : List Char) (basic : Nat) : (code : Nat) → List Nat → Writing → Writing
  | _, [], w => w
  | code, n :: rest, w =>
    let w := { w with delta := w.delta + (n - code) * (w.count + 1) }
    let w := label.foldl (Writing.pass basic n) w
    writeCodes label basic (n + 1) rest { w with delta := w.delta + 1 }

/-- Insert a number into an ascending list, unless it is there. -/
def insertCode (n : Nat) : List Nat → List Nat
  | [] => [n]
  | m :: rest =>
    if n < m then n :: m :: rest else if n = m then m :: rest else m :: insertCode n rest

/-- Write a label. -/
def encode (label : List Char) : List Char :=
  let basic := label.filter (·.toNat < 128)
  let codes := ((label.map Char.toNat).filter (128 ≤ ·)).foldr insertCode []
  let start := if basic.isEmpty then [] else basic ++ ['-']
  (writeCodes label basic.length 128 codes ⟨start, 0, 72, basic.length⟩).done

end LiveSync.Idna.Punycode
