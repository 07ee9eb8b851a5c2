/-!
# Instants and spans of time

Both are numbers of nanoseconds: an instant counts them from the start of the clock, a span from
its own beginning.  The functions on them stand in the namespaces `Span` and `Instant`.
-/

namespace LiveSync

namespace Span

/-- A span of whole milliseconds. -/
def ofMillis (n : Nat) : Nat :=
  n * 1000000

/-- A span of whole seconds. -/
def ofSeconds (n : Nat) : Nat :=
  n * 1000000000

/-- The whole milliseconds of a span. -/
def toMillis (d : Nat) : Nat :=
  d / 1000000

/-- The whole seconds of a span. -/
def seconds (d : Nat) : Nat :=
  d / 1000000000

/-- The nanoseconds beyond the whole seconds of a span. -/
def subsecond (d : Nat) : Nat :=
  d % 1000000000

/-- The longest span that still bounds a wait: 365 days. -/
def longest : Nat := ofSeconds (86400 * 365)

/-- A span that stands for no bound at all: zero, or more than a year. -/
def isUnbounded (d : Nat) : Bool :=
  d = 0 || longest < d

/-- A wait that never ends in practice: a hundred years. -/
def farFuture : Nat := ofSeconds (100 * 365 * 24 * 3600)

/-- A number with `places` decimals of which trailing zeros are dropped. -/
def decimalText (whole fraction places : Nat) : String :=
  let digits := (Nat.toDigits 10 (Nat.pow 10 places + fraction)).drop 1
  let kept := (digits.reverse.dropWhile (· = '0')).reverse
  if kept.isEmpty then toString whole else toString whole ++ "." ++ String.ofList kept

/-- The span in the greatest of the units s, ms, µs and ns that it fills. -/
def text (d : Nat) : String :=
  if 1000000000 ≤ d then decimalText (d / 1000000000) (d % 1000000000) 9 ++ "s"
  else if 1000000 ≤ d then decimalText (d / 1000000) (d % 1000000) 6 ++ "ms"
  else if 1000 ≤ d then decimalText (d / 1000) (d % 1000) 3 ++ "µs"
  else toString d ++ "ns"

end Span

/-- The earlier of two instants, either of which may be missing. -/
def Instant.earliest : Option Nat → Option Nat → Option Nat
  | some a, some b => some (min a b)
  | some a, none => some a
  | none, b => b

/-- The earlier of two instants lies ahead if both do. -/
theorem Instant.lt_earliest_iff {now : Nat} {a b : Option Nat} :
    (∀ due, Instant.earliest a b = some due → now < due) ↔
      (∀ due, a = some due → now < due) ∧ ∀ due, b = some due → now < due := by
  cases a with
  | none => simp [Instant.earliest]
  | some a =>
    cases b with
    | none => simp [Instant.earliest]
    | some b => simp only [Instant.earliest, Option.some.injEq, forall_eq', Nat.lt_min]

end LiveSync
