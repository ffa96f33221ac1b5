import Dialogue.Number.Shortest

/-!
# Multiples

Whether a binary64 number is a multiple of another. Where the other is whole, this is a matter of
whole numbers. Otherwise the quotient is rounded first, and it counts as whole if it is more than a
whole number by next to nothing, or below zero. A quotient beyond all numbers is decided by the
shortest decimals of both.
-/
namespace Dialogue

namespace Decimal

/-- One decimal is a multiple of another. -/
def isMultipleOf (x divisor : Decimal) : Bool :=
  let shift := x.exponent - divisor.exponent
  if 0 ≤ shift then x.digits * pow10 shift.toNat % divisor.digits == 0
  else x.digits % (divisor.digits * pow10 (-shift).toNat) == 0

end Decimal

namespace Binary64

/-- The number counts as a multiple of another; none is a multiple of zero. -/
def isMultipleOf (x divisor : Binary64) : Bool :=
  if divisor.isWhole then
    x.isWhole && divisor.magnitude != 0 && x.magnitude % divisor.magnitude == 0
  else
    let quotient := x.div divisor
    if quotient.overflows then x.shortest.isMultipleOf divisor.shortest
    else quotient.negative || quotient.magnitude % pow2 1074 < pow2 1022

end Binary64

end Dialogue
