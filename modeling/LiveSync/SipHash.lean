/-!
# SipHash-1-3

A hash of bytes in 64 bits, under the key zero: one round for every word of eight bytes, and three
rounds at the end.  Bytes may be written one after the other; only the unfinished word is kept.
-/

namespace LiveSync

/-- Four words that the rounds mix, and the bytes that do not fill a word yet. -/
structure SipHash where
  /-- The first word. -/
  v0 : UInt64
  /-- The second word. -/
  v1 : UInt64
  /-- The third word. -/
  v2 : UInt64
  /-- The fourth word. -/
  v3 : UInt64
  /-- The unfinished word, its first byte lowest. -/
  pending : UInt64
  /-- How many bytes were written. -/
  length : Nat

namespace SipHash

/-- Nothing is written yet. -/
def empty : SipHash :=
  ⟨0x736f6d6570736575, 0x646f72616e646f6d, 0x6c7967656e657261, 0x7465646279746573, 0, 0⟩

/-- The bits of a word, rotated to the left. -/
def rotate (word bits : UInt64) : UInt64 :=
  word <<< bits ||| word >>> (64 - bits)

/-- Mix the four words once. -/
def round (s : SipHash) : SipHash :=
  let v0 := s.v0 + s.v1
  let v2 := s.v2 + s.v3
  let v1 := rotate s.v1 13 ^^^ v0
  let v3 := rotate s.v3 16 ^^^ v2
  let v0 := rotate v0 32 + v3
  let v2 := v2 + v1
  { s with v0 := v0, v1 := rotate v1 17 ^^^ v2, v2 := rotate v2 32, v3 := rotate v3 21 ^^^ v0 }

/-- Mix a word in. -/
def absorb (s : SipHash) (word : UInt64) : SipHash :=
  let mixed := { s with v3 := s.v3 ^^^ word }.round
  { mixed with v0 := mixed.v0 ^^^ word }

/-- Write a byte. -/
def write (s : SipHash) (byte : Nat) : SipHash :=
  let place := s.length % 8
  let pending := s.pending ||| UInt64.ofNat byte <<< UInt64.ofNat (8 * place)
  if place = 7 then { s.absorb pending with pending := 0, length := s.length + 1 }
  else { s with pending := pending, length := s.length + 1 }

/-- The hash of what was written: the last word has the number of bytes on top. -/
def finish (s : SipHash) : UInt64 :=
  let last := s.absorb (UInt64.ofNat s.length <<< 56 ||| s.pending)
  let mixed := { last with v2 := last.v2 ^^^ 0xff }.round.round.round
  mixed.v0 ^^^ mixed.v1 ^^^ mixed.v2 ^^^ mixed.v3

/-- The hash of some bytes. -/
def hash (bytes : List Nat) : UInt64 :=
  (bytes.foldl write empty).finish

/-- The hash of no bytes at all. -/
example : hash [] = 0xd1fba762150c532c := by decide +kernel

end SipHash

end LiveSync
