/-!
# Finite doubles

The floating-point numbers that a JSON text can hold.  A double keeps its bits, so that `0.0` and
`-0.0` differ although they are one number (`Double.same`).
-/

namespace LiveSync.Decimal

/-- The eleven exponent bits of a double, as a number. -/
def exponentBits (bits : UInt64) : Nat :=
  bits.toNat / 0x10000000000000 % 0x800

/-- A finite double, given by its 64 bits. -/
structure Double where
  /-- Sign, exponent and fraction, as the standard packs them. -/
  bits : UInt64
  /-- Neither an infinity nor a NaN. -/
  finite : exponentBits bits < 2047
  deriving DecidableEq

namespace Double

/-- The double of a float, unless it is infinite or not a number. -/
def ofFloat? (x : Float) : Option Double :=
  if h : exponentBits x.toBits < 2047 then some ⟨x.toBits, h⟩ else none

/-- The float that a double stands for. -/
def toFloat (d : Double) : Float :=
  Float.ofBits d.bits

/-- All bits but the sign. -/
def magnitude (d : Double) : Nat :=
  d.bits.toNat % 0x8000000000000000

/-- Is the sign bit set? -/
def isNegative (d : Double) : Bool :=
  0x8000000000000000 ≤ d.bits.toNat

/-- Equality of the numbers themselves: the two zeros are one number. -/
def same (a b : Double) : Bool :=
  a.bits == b.bits || (a.magnitude == 0 && b.magnitude == 0)

end Double

end LiveSync.Decimal
