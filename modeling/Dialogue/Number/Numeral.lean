import Dialogue.Number.Binary64

/-!
# Numerals in text

A text reads as a number when it is an optional sign followed by decimal digits with at most one
point among or beside them, an optional exponent, and nothing else, or by one of the words `inf`,
`infinity` and `nan` in any letter case. The reading is the binary64 number nearest to the decimal.
-/
namespace Dialogue

def digitValue (c : Char) : Nat := c.toNat - '0'.toNat

/-- The number that decimal digits write. -/
def digitsValue (ds : List Char) : Nat := ds.foldl (fun n d => 10 * n + digitValue d) 0

/-- The decimal `± digits * 10 ^ exponent`. -/
structure Numeral where
  negative : Bool
  digits : Nat
  exponent : Int
  deriving Repr, DecidableEq

namespace Numeral

/-- The number of decimal digits of `n`, one for zero. -/
def width (n : Nat) : Nat := (Nat.toDigits 10 n).length

/-- The nearest number. A decimal far outside the range of binary64 is not expanded: it is an
infinity or a zero by its order of magnitude alone. -/
def reading (n : Numeral) : Reading :=
  let order := (width n.digits : Int) + n.exponent
  if n.digits = 0 then .finite (.zero n.negative)
  else if 400 < order then .infinite n.negative
  else if order < -400 then .finite (.zero n.negative)
  else
    match n.exponent with
    | .ofNat k => .nearest n.negative (n.digits * pow10 k) 1
    | .negSucc k => .nearest n.negative n.digits (pow10 (k + 1))

/-- The exponent after the letter `e`: an optional sign and at least one digit, to the end. -/
def exponentOf? (cs : List Char) : Option Int :=
  let (negative, ds) :=
    match cs with
    | '-' :: ds => (true, ds)
    | '+' :: ds => (false, ds)
    | ds => (false, ds)
  if ds.isEmpty || !ds.all Char.isDigit then none
  else some (if negative then -(digitsValue ds : Int) else digitsValue ds)

/-- An unsigned decimal. -/
def unsigned? (negative : Bool) (cs : List Char) : Option Numeral :=
  let whole := cs.takeWhile Char.isDigit
  let rest := cs.dropWhile Char.isDigit
  let (fraction, rest) :=
    match rest with
    | '.' :: after => (after.takeWhile Char.isDigit, after.dropWhile Char.isDigit)
    | _ => ([], rest)
  if whole.isEmpty && fraction.isEmpty then none
  else
    let exponent? :=
      match rest with
      | [] => some 0
      | c :: after => if c = 'e' ∨ c = 'E' then exponentOf? after else none
    exponent?.map fun e => ⟨negative, digitsValue (whole ++ fraction), e - fraction.length⟩

end Numeral

namespace Reading

/-- An unsigned number or one of the words. -/
def unsigned? (negative : Bool) (cs : List Char) : Option Reading :=
  let word := cs.map Char.toLower
  if word = "inf".toList ∨ word = "infinity".toList then some (infinite negative)
  else if word = "nan".toList then some notANumber
  else (Numeral.unsigned? negative cs).map Numeral.reading

/-- The number that a whole text reads as. -/
def ofText? : List Char → Option Reading
  | '-' :: cs => unsigned? true cs
  | '+' :: cs => unsigned? false cs
  | cs => unsigned? false cs

end Reading

end Dialogue
