/-!
# Binary64 numbers in exact arithmetic

A finite binary64 number is a sign, a mantissa below `2 ^ 53` and a scale; it stands for
`± mantissa * 2 ^ scale` steps of `2 ^ (-1074)`, the distance between the smallest numbers. All
arithmetic is on whole numbers: a quotient is rounded once, to the nearest mantissa, a tie to the
even one. Comparison is the order of the steps, so the two zeros are equal.

No machine number is used, and no bit pattern is kept.
-/
namespace Dialogue

/-- A power of two. -/
def pow2 (k : Nat) : Nat := Nat.pow 2 k

/-- A power of ten. -/
def pow10 (k : Nat) : Nat := Nat.pow 10 k

/-- The whole number nearest to `n / d`; of two, the even one. -/
def nearestEven (n d : Nat) : Nat :=
  let q := n / d
  let r := n % d
  if 2 * r < d then q else if d < 2 * r then q + 1 else q + q % 2

/-- The number `± mantissa * 2 ^ scale` steps of `2 ^ (-1074)`. -/
structure Binary64 where
  negative : Bool
  mantissa : Nat
  scale : Nat
  deriving Repr, DecidableEq

namespace Binary64

/-- The largest scale of a finite number. -/
def maxScale : Nat := 2045

def zero (negative : Bool) : Binary64 := ⟨negative, 0, 0⟩

/-- The distance from zero in steps of `2 ^ (-1074)`. -/
def magnitude (x : Binary64) : Nat := x.mantissa * pow2 x.scale

/-- The number in steps of `2 ^ (-1074)`. -/
def steps (x : Binary64) : Int := if x.negative then -(x.magnitude : Int) else x.magnitude

/-- Beyond the largest finite number. -/
def overflows (x : Binary64) : Bool := maxScale < x.scale

/-- The number nearest to `± n / d`; of two, the one with the even mantissa. -/
def round (negative : Bool) (n d : Nat) : Binary64 :=
  let scale := Nat.log2 (n * pow2 1074 / d) - 52
  let mantissa := nearestEven (n * pow2 1074) (d * pow2 scale)
  if mantissa = pow2 53 then ⟨negative, pow2 52, scale + 1⟩ else ⟨negative, mantissa, scale⟩

def mul (x y : Binary64) : Binary64 :=
  round (x.negative != y.negative) (x.magnitude * y.magnitude) (pow2 2148)

/-- The quotient by a number other than zero. -/
def div (x y : Binary64) : Binary64 :=
  round (x.negative != y.negative) x.magnitude y.magnitude

def sub (x y : Binary64) : Binary64 :=
  round (x.steps < y.steps) (x.steps - y.steps).natAbs (pow2 1074)

def powerOfTen (k : Nat) : Binary64 := round false (pow10 k) 1

/-- A whole number of ones, such as `2.0`. -/
def isWhole (x : Binary64) : Bool := x.magnitude % pow2 1074 == 0

/-- The number for `± significand * 10 ^ exponent` by one multiplication or division with a rounded
power of ten, so that it may miss the nearest number by a step. Below `10 ^ (-308)` the division is
made in two parts. The significand has at most 64 bits. There is none beyond the largest number. -/
def approximate (negative : Bool) (significand : Nat) (exponent : Int) : Option Binary64 :=
  let x := round negative significand 1
  match exponent with
  | .ofNat k =>
      if k ≤ 308 then
        let y := x.mul (powerOfTen k)
        if y.overflows then none else some y
      else if x.mantissa = 0 then some x
      else none
  | .negSucc j =>
      let k := j + 1
      if k ≤ 308 then some (x.div (powerOfTen k))
      else if k ≤ 616 then some ((x.div (powerOfTen 308)).div (powerOfTen (k - 308)))
      else some (zero negative)

end Binary64

/-- What a numeral stands for when it is compared: a binary64 number, an infinity, or no number. -/
inductive Reading where
  | finite (value : Binary64)
  | infinite (negative : Bool)
  | notANumber
  deriving Repr, DecidableEq

namespace Reading

/-- The reading nearest to `± n / d`. -/
def nearest (negative : Bool) (n d : Nat) : Reading :=
  let x := Binary64.round negative n d
  if x.overflows then infinite negative else finite x

def ofInt (n : Int) : Reading := nearest (n < 0) n.natAbs 1

/-- The order of two readings; there is none when one of them is not a number. -/
def compare? : Reading → Reading → Option Ordering
  | notANumber, _ => none
  | _, notANumber => none
  | finite x, finite y => some (compare x.steps y.steps)
  | infinite s, infinite t => some (if s = t then .eq else if s then .lt else .gt)
  | infinite s, finite _ => some (if s then .lt else .gt)
  | finite _, infinite t => some (if t then .gt else .lt)

end Reading

end Dialogue
