import Dialogue.Number.Shortest

/-!
# How a decimal is written

A decimal is written positionally while its order of magnitude lies in a given window, with at least
one digit on both sides of the point; outside the window it is written as a mantissa, the letter `e`
and a signed exponent, and then a whole mantissa has no point.
-/
namespace Dialogue

/-- The orders of magnitude that are written positionally: from the first, below the second. -/
structure DecimalLayout where
  positionalFrom : Int
  positionalBelow : Int
  deriving Repr, DecidableEq

namespace DecimalLayout

/-- Digits around a point that stands after the digit for `10 ^ 0`. -/
def positional (digits : List Char) (order : Int) : List Char :=
  match order with
  | .ofNat k =>
      if digits.length ≤ k + 1 then
        digits ++ List.replicate (k + 1 - digits.length) '0' ++ ['.', '0']
      else digits.take (k + 1) ++ '.' :: digits.drop (k + 1)
  | .negSucc k => '0' :: '.' :: List.replicate k '0' ++ digits

/-- A mantissa with one digit before the point, and the exponent with its sign. -/
def scientific (digits : List Char) (order : Int) : List Char :=
  let mantissa :=
    match digits with
    | first :: next :: rest => first :: '.' :: next :: rest
    | short => short
  mantissa ++ 'e' :: (if order < 0 then '-' else '+') :: Nat.toDigits 10 order.natAbs

/-- A decimal other than zero, without sign. -/
def write (layout : DecimalLayout) (d : Decimal) : List Char :=
  let digits := Nat.toDigits 10 d.digits
  let order := (digits.length : Int) - 1 + d.exponent
  if layout.positionalFrom ≤ order ∧ order < layout.positionalBelow then positional digits order
  else scientific digits order

end DecimalLayout

end Dialogue
