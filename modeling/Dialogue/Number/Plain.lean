import Dialogue.Number.Layout

/-!
# Numbers without an exponent

A number can be written with as many digits as it needs, in front of the point and behind it, and
without an exponent. A whole number then has no point.
-/
namespace Dialogue.Binary64

/-- The number with as many digits as it needs and no exponent. -/
def plainText (x : Binary64) : String :=
  let sign := if x.negative then ['-'] else []
  if x.mantissa = 0 then String.ofList (sign ++ ['0'])
  else
    let digits := Nat.toDigits 10 x.shortest.digits
    let order := (digits.length : Int) - 1 + x.shortest.exponent
    let body := DecimalLayout.positional digits order
    let whole := body.length - 2
    String.ofList (sign ++ if body.drop whole = ['.', '0'] then body.take whole else body)

end Dialogue.Binary64
