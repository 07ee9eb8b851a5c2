/-!
# UTF-8

Encoding characters and decoding bytes.  A sequence that is cut short or not allowed ends before
the first byte that does not fit; `decodeLossy` writes U+FFFD for each such sequence and `decode?`
refuses the bytes.
-/

namespace LiveSync.Text.Utf8

/-- The bytes of some characters. -/
def encode (cs : List Char) : List Nat :=
  cs.flatMap fun c => (String.utf8EncodeChar c).map UInt8.toNat

/-- How many bytes follow a lead byte, and the range of the first of them.  Bytes that lead
nothing have no entry. -/
def lead? (b : Nat) : Option (Nat × Nat × Nat) :=
  if 0xC2 ≤ b ∧ b ≤ 0xDF then some (1, 0x80, 0xBF)
  else if b = 0xE0 then some (2, 0xA0, 0xBF)
  else if b = 0xED then some (2, 0x80, 0x9F)
  else if 0xE1 ≤ b ∧ b ≤ 0xEF then some (2, 0x80, 0xBF)
  else if b = 0xF0 then some (3, 0x90, 0xBF)
  else if 0xF1 ≤ b ∧ b ≤ 0xF3 then some (3, 0x80, 0xBF)
  else if b = 0xF4 then some (3, 0x80, 0x8F)
  else none

/-- The payload bits of a lead byte with that many followers. -/
def leadBits (followers b : Nat) : Nat :=
  if followers = 1 then b % 32 else if followers = 2 then b % 16 else b % 8

/-- A sequence that is not complete yet: how many bytes are missing, the range of the next one and
the bits so far. -/
structure Partial where
  /-- How many bytes are missing. -/
  missing : Nat
  /-- The least next byte. -/
  low : Nat
  /-- The greatest next byte. -/
  high : Nat
  /-- The bits so far. -/
  bits : Nat

/-- Read a byte that begins a sequence. -/
def first (b : Nat) : List (Option Char) × Option Partial :=
  if b < 0x80 then ([some (Char.ofNat b)], none)
  else
    match lead? b with
    | some (missing, low, high) => ([], some ⟨missing, low, high, leadBits missing b⟩)
    | none => ([none], none)

/-- Read one byte.  The result has the characters it completes, `none` for a sequence that is not
a character. -/
def step (pending : Option Partial) (b : Nat) : List (Option Char) × Option Partial :=
  match pending with
  | none => first b
  | some p =>
    if p.low ≤ b ∧ b ≤ p.high then
      let bits := p.bits * 64 + b % 64
      if p.missing ≤ 1 then ([some (Char.ofNat bits)], none)
      else ([], some ⟨p.missing - 1, 0x80, 0xBF, bits⟩)
    else
      let (out, pending) := first b
      (none :: out, pending)

/-- Decode bytes to characters, `none` for each sequence that is not a character. -/
def decodeFrom (pending : Option Partial) : List Nat → List (Option Char)
  | [] => if pending.isSome then [none] else []
  | b :: bs =>
    let (out, pending) := step pending b
    out ++ decodeFrom pending bs

/-- Decode bytes, with U+FFFD for what is not a character. -/
def decodeLossy (bytes : List Nat) : String :=
  String.ofList ((decodeFrom none bytes).map (·.getD '\uFFFD'))

/-- Decode bytes that are all characters. -/
def decode? (bytes : List Nat) : Option String :=
  ((decodeFrom none bytes).mapM id).map String.ofList

end LiveSync.Text.Utf8
