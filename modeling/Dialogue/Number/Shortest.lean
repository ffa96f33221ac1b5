import Dialogue.Number.Binary64

/-!
# The shortest decimal of a binary64 number

Of the decimals that round to a given number, the one with the fewest digits; of those, the nearest;
of two equally near, the one with the even last digit. The search goes through 1, 2, … 17 digits and
tests the two neighbours of the number on each decimal grid, in whole numbers.

All quantities are multiplied by `4 * 2 ^ 1074 * 10 ^ 400`, so that the interval of numbers that
round to the given one has whole ends.
-/
namespace Dialogue

/-- The number `digits * 10 ^ exponent`. -/
structure Decimal where
  digits : Nat
  exponent : Int
  deriving Repr, DecidableEq

namespace Decimal

/-- The same number without trailing zeros among the digits; `fuel` bounds their count. -/
def normalizeWith : Nat → Decimal → Decimal
  | 0, d => d
  | fuel + 1, d =>
      if d.digits % 10 = 0 ∧ d.digits ≠ 0 then normalizeWith fuel ⟨d.digits / 10, d.exponent + 1⟩
      else d

end Decimal

namespace Binary64

/-- The ends of the interval of numbers that round to `x`, and whether they belong to it. -/
structure Interval where
  low : Nat
  high : Nat
  closed : Bool
  deriving Repr

def Interval.contains (i : Interval) (n : Nat) : Bool :=
  if i.closed then i.low ≤ n && n ≤ i.high else i.low < n && n < i.high

/-- The scaled magnitude. -/
def scaledMagnitude (x : Binary64) : Nat := 4 * x.magnitude * pow10 400

/-- The gap below a power of two is half the gap above it. -/
def interval (x : Binary64) : Interval :=
  let unit := pow2 x.scale * pow10 400
  let below := if x.mantissa = pow2 52 ∧ x.scale ≠ 0 then 1 else 2
  ⟨(4 * x.mantissa - below) * unit, (4 * x.mantissa + 2) * unit, x.mantissa % 2 == 0⟩

/-- The number of decimal digits of `x * 10 ^ 400`, cut to a whole number. -/
def digitCount (x : Binary64) : Nat :=
  (Nat.toDigits 10 (x.magnitude * pow10 400 / pow2 1074)).length

/-- The nearest neighbour of `x` with `n` digits that lies in its interval. -/
def neighbour? (x : Binary64) (n : Nat) : Option Decimal :=
  let place := x.digitCount - n
  let grid := 4 * pow2 1074 * pow10 place
  let value := x.scaledMagnitude
  let below := value / grid
  let lowIn := x.interval.contains (below * grid)
  let highIn := x.interval.contains ((below + 1) * grid)
  let exponent := (place : Int) - 400
  if lowIn && highIn then some ⟨nearestEven value grid, exponent⟩
  else if lowIn then some ⟨below, exponent⟩
  else if highIn then some ⟨below + 1, exponent⟩
  else none

/-- The first digit count from `n` on, at most `fuel` of them, that has a neighbour in the interval.
-/
def shortestFrom (x : Binary64) : Nat → Nat → Decimal
  | 0, _ => ⟨0, 0⟩
  | fuel + 1, n =>
      match x.neighbour? n with
      | some d => d
      | none => shortestFrom x fuel (n + 1)

/-- The shortest decimal of the magnitude of `x`. -/
def shortest (x : Binary64) : Decimal :=
  if x.mantissa = 0 then ⟨0, 0⟩ else Decimal.normalizeWith 20 (x.shortestFrom 17 1)

end Binary64

end Dialogue
