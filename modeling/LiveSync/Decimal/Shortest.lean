import LiveSync.Decimal.Double

/-!
# The shortest decimal of a double

A positive double is `m * 2 ^ q`.  The reals that round to it form an interval around it, whose
ends belong to it when `m` is even.  Among the multiples of a power of ten in that interval the
shortest decimal takes the greatest power that has one, and of its multiples the one nearest to
the double; of two equally near ones it takes the even.
-/

namespace LiveSync.Decimal

/-- A decimal numeral: an integer times a power of ten. -/
structure Numeral where
  /-- The significant digits, read as one integer. -/
  digits : Nat
  /-- The power of ten they are multiplied by. -/
  exponent : Int
  deriving DecidableEq, Repr

/-- A positive double together with the reals that round to it, all in units of a quarter of the
gap above the double: the reals from `lower` to `upper`, times `num / den`. -/
structure Neighbourhood where
  /-- The double itself. -/
  value : Nat
  /-- The least real that rounds to it. -/
  lower : Nat
  /-- The greatest real that rounds to it. -/
  upper : Nat
  /-- Do the ends themselves round to it? -/
  closed : Bool
  /-- Numerator of the unit. -/
  num : Nat
  /-- Denominator of the unit. -/
  den : Nat

/-- The bit above the fraction, which a double does not store. -/
def hiddenBit : Nat := 0x10000000000000

/-- The integer `m` and the exponent `q` of `m * 2 ^ q`, for the magnitude of a double. -/
def mantissaExponent (d : Double) : Nat × Int :=
  let e := exponentBits d.bits
  let f := d.bits.toNat % hiddenBit
  if e = 0 then (f, -1074) else (hiddenBit + f, (e : Int) - 1075)

/-- The reals that round to a double.  Just above a power of two the gap below is half as wide. -/
def neighbourhood (d : Double) : Neighbourhood :=
  let (m, q) := mantissaExponent d
  let narrow : Bool := m = hiddenBit && 1 < exponentBits d.bits
  { value := 4 * m
    lower := if narrow then 4 * m - 1 else 4 * m - 2
    upper := 4 * m + 2
    closed := m % 2 = 0
    num := Nat.pow 2 (q - 2).toNat
    den := Nat.pow 2 (2 - q).toNat }

namespace Neighbourhood

/-- Does `k * 10 ^ p` round to the double? -/
def holds (n : Neighbourhood) (k : Nat) (p : Int) : Bool :=
  let point := k * Nat.pow 10 p.toNat * n.den
  let scale := n.num * Nat.pow 10 (-p).toNat
  if n.closed then n.lower * scale ≤ point && point ≤ n.upper * scale
  else n.lower * scale < point && point < n.upper * scale

/-- The multiple of `10 ^ p` that rounds to the double and lies nearest to it, if there is one. -/
def nearest? (n : Neighbourhood) (p : Int) : Option Nat :=
  let top := n.value * n.num * Nat.pow 10 (-p).toNat
  let unit := n.den * Nat.pow 10 p.toNat
  let k := top / unit
  let rest := top % unit
  match n.holds k p, n.holds (k + 1) p with
  | true, true =>
    if 2 * rest < unit then some k
    else if unit < 2 * rest then some (k + 1)
    else some (k + k % 2)
  | true, false => some k
  | false, true => some (k + 1)
  | false, false => none

/-- Try the powers of ten from `p` downwards, `fuel` of them. -/
def search (n : Neighbourhood) (p : Int) : (fuel : Nat) → Numeral
  | 0 => ⟨0, 0⟩
  | fuel + 1 =>
    match n.nearest? p with
    | some k => if k = 0 then n.search (p - 1) fuel else ⟨k, p⟩
    | none => n.search (p - 1) fuel

/-- The least power of ten, at most the `fuel`-th from `p`, that exceeds the double. -/
def ceilingPower (n : Neighbourhood) (p : Int) : (fuel : Nat) → Int
  | 0 => p
  | fuel + 1 =>
    if n.value * n.num * Nat.pow 10 (-p).toNat < n.den * Nat.pow 10 p.toNat then p
    else n.ceilingPower (p + 1) fuel

end Neighbourhood

/-- The shortest decimal of the magnitude of a double. -/
def shortest (d : Double) : Numeral :=
  if d.magnitude = 0 then ⟨0, 0⟩
  else
    let n := neighbourhood d
    let (m, q) := mantissaExponent d
    -- ten to the power `start` lies at most one power of ten below `2 ^ (log2 m + q)`
    let start := ((m.log2 : Int) + q) * 30102 / 100000 - 1
    n.search (n.ceilingPower start 4) 20

end LiveSync.Decimal
