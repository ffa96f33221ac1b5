import Dialogue.Config.Setting
import Dialogue.Config.Toml.Moment
import Dialogue.Config.Toml.Text

/-!
# Plain values in configuration files

A value without quotes or brackets is a flag, a whole number of 64 bits, a decimal number or a
moment. Single underscores may stand between the digits of a number.
-/
namespace Dialogue.Toml

/-- Digits with single underscores between them, which are dropped. -/
def digitsOf? (isDigit : Char → Bool) : List Char → Option (List Char)
  | [] => none
  | [d] => if isDigit d then some [d] else none
  | d :: '_' :: rest => if isDigit d then (digitsOf? isDigit rest).map (d :: ·) else none
  | d :: rest => if isDigit d then (digitsOf? isDigit rest).map (d :: ·) else none

def digits? (cs : List Char) : Option (List Char) := digitsOf? Char.isDigit cs

/-- The digits before the point of a number: no leading zero. -/
def wholeDigits? (cs : List Char) : Option (List Char) := do
  let ds ← digits? cs
  if ds.length ≠ 1 ∧ ds.head? = some '0' then none else return ds

/-- A sign and the rest. -/
def splitSign : List Char → List Char × List Char
  | '-' :: rest => (['-'], rest)
  | '+' :: rest => ([], rest)
  | rest => ([], rest)

/-- A decimal number with a point or an exponent; none is too large on the positive side. -/
def decimal? (cs : List Char) : Option Reading := do
  let (sign, body) := splitSign cs
  let isExponent (c : Char) : Bool := c = 'e' || c = 'E'
  let mantissa := body.takeWhile (!isExponent ·)
  let ending ←
    match body.dropWhile (!isExponent ·) with
    | [] => some []
    | _ :: exponent =>
        let (sign, ds) := splitSign exponent
        (digits? ds).map ('e' :: sign ++ ·)
  let whole ← wholeDigits? (mantissa.takeWhile (· ≠ '.'))
  let fraction ←
    match mantissa.dropWhile (· ≠ '.') with
    | [] => some []
    | _ :: ds => (digits? ds).map ('.' :: ·)
  if fraction.isEmpty ∧ ending.isEmpty then none
  match ← Reading.ofText? (sign ++ whole ++ fraction ++ ending) with
  | .infinite false => none
  | r => return r

/-- A decimal number or one of the words for what is none. -/
def float? (cs : List Char) : Option Reading :=
  let (sign, body) := splitSign cs
  if body = "inf".toList ∨ body = "nan".toList then Reading.ofText? (sign ++ body) else decimal? cs

/-- The least whole number that settings cannot hold. -/
def wholeBound : Int := 9223372036854775808

/-- The digits of a number written with another base, and the base. -/
def based? : List Char → Option (Nat × (Char → Bool) × List Char)
  | '0' :: 'x' :: ds => some (16, fun c => (hexValue? c).isSome, ds)
  | '0' :: 'o' :: ds => some (8, fun c => '0' ≤ c && c ≤ '7', ds)
  | '0' :: 'b' :: ds => some (2, fun c => c = '0' || c = '1', ds)
  | _ => none

/-- A whole number of 64 bits; a sign stands before a decimal one only. -/
def integer? (cs : List Char) : Option Int := do
  match based? cs with
  | some (base, isDigit, ds) =>
      let n : Nat :=
        (← digitsOf? isDigit ds).foldl (fun n d => base * n + (hexValue? d).getD 0) 0
      if (n : Int) < wholeBound then return n else none
  | none =>
      let (sign, body) := splitSign cs
      let n : Int := digitsValue (← wholeDigits? body)
      let n := if sign.isEmpty then n else -n
      if -wholeBound ≤ n ∧ n < wholeBound then return n else none

/-- The plain value that a whole text writes. -/
def scalar? (cs : List Char) : Option Setting :=
  if cs = "true".toList then some (.flag true)
  else if cs = "false".toList then some (.flag false)
  else
    match moment? cs, integer? cs with
    | some moment, _ => some (.text (String.ofList moment))
    | none, some n => some (.integer n)
    | none, none => (float? cs).map .float

/-- Characters that a plain value goes over. -/
def isScalarChar (c : Char) : Bool := !([' ', '\t', '\r', '\n', '#', ',', ']', '}'].contains c)

/-- The plain value at the front, and what comes after. A gap may stand between a date and a time.
-/
def readScalar? (cs : List Char) : Option (Setting × List Char) :=
  let word := cs.takeWhile isScalarChar
  let rest := cs.dropWhile isScalarChar
  let alone := (scalar? word).map (·, rest)
  match rest with
  | ' ' :: more =>
      let both := word ++ ' ' :: more.takeWhile isScalarChar
      match moment? both with
      | some moment => some (.text (String.ofList moment), more.dropWhile isScalarChar)
      | none => alone
  | _ => alone

end Dialogue.Toml
