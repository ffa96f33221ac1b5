import Dialogue.Number.Numeral
import Dialogue.Text.Leading

/-!
# Numeric addresses

A short address is four numbers below 256 with points between them. A long address is eight groups
of hexadecimal digits with colons between them; two colons in a row stand for at least one group of
zeros, at one place only, and the last two groups may be written as a short address.
-/
namespace Dialogue.Text

/-- A number below 256, without needless zeros. -/
def isOctet (ds : List Char) : Bool :=
  !ds.isEmpty && ds.length ≤ 3 && ds.all Char.isDigit && digitsValue ds < 256 &&
    (ds.length = 1 || ds.head? != some '0')

def isIpv4 (cs : List Char) : Bool :=
  let numbers := splitAt '.' cs
  numbers.length = 4 && numbers.all isOctet

def isHexDigit (c : Char) : Bool :=
  c.isDigit || ('a' ≤ c && c ≤ 'f') || ('A' ≤ c && c ≤ 'F')

/-- One to four hexadecimal digits. -/
def isHexGroup (ds : List Char) : Bool := !ds.isEmpty && ds.length ≤ 4 && ds.all isHexDigit

/-- How many groups the pieces between colons are; the last may be a short address. -/
def groupCount? : List (List Char) → Option Nat
  | [] => some 0
  | [last] => if isHexGroup last then some 1 else if isIpv4 last then some 2 else none
  | piece :: rest => if isHexGroup piece then (groupCount? rest).map (· + 1) else none

/-- The text before and after the first two colons in a row. -/
def cutAtGap : List Char → List Char × Option (List Char)
  | ':' :: ':' :: rest => ([], some rest)
  | c :: rest => let (before, after) := cutAtGap rest; (c :: before, after)
  | [] => ([], none)

/-- The groups of a part beside a gap, which may have none. -/
def pieces (cs : List Char) : List (List Char) := if cs.isEmpty then [] else splitAt ':' cs

def isIpv6 (cs : List Char) : Bool :=
  match cutAtGap cs with
  | (_, none) => groupCount? (splitAt ':' cs) == some 8
  | (before, some after) =>
      (pieces before).all isHexGroup &&
        (groupCount? (pieces after)).any fun n => (pieces before).length + n < 8

end Dialogue.Text
