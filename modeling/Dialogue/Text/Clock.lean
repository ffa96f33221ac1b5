import Dialogue.Text.Leading

/-!
# Dates and times of day

A date is a year of four digits, a month and a day with hyphens between them. A time of day has
hours, minutes and seconds with colons between them, perhaps a fraction of a second, and its offset
from the common time. A second that is put in stands only at the end of a day of the common time.

In the places of fixed length the six characters after `9` count as digits from ten to fifteen.
-/
namespace Dialogue.Text.Clock

/-- The value of a digit in a place of fixed length. -/
def digit? (c : Char) : Option Nat :=
  if '0' ≤ c ∧ c ≤ '?' then some (c.toNat - '0'.toNat) else none

def twoDigits? : List Char → Option Nat
  | [a, b] => do return 10 * (← digit? a) + (← digit? b)
  | _ => none

def daysIn (year month : Nat) : Nat :=
  if month = 2 then
    if year % 4 = 0 ∧ (year % 100 ≠ 0 ∨ year % 400 = 0) then 29 else 28
  else if month ∈ [4, 6, 9, 11] then 30
  else 31

def isDate : List Char → Bool
  | [a, b, c, d, '-', e, f, '-', g, h] =>
      match twoDigits? [a, b], twoDigits? [c, d], twoDigits? [e, f], twoDigits? [g, h] with
      | some century, some year, some month, some day =>
          1 ≤ month && month ≤ 12 && 1 ≤ day && day ≤ daysIn (100 * century + year) month
      | _, _, _, _ => false
  | _ => false

/-- The minutes of an offset east, one to the west counted backwards through a day. -/
def offset? : List Char → Option Nat
  | [z] => if z = 'Z' ∨ z = 'z' then some 0 else none
  | [sign, a, b, ':', c, d] => do
      let hours ← twoDigits? [a, b]
      let minutes ← twoDigits? [c, d]
      if 23 < hours ∨ 59 < minutes then none
      else if sign = '+' then return 60 * hours + minutes
      else if sign = '-' then return 1440 - (60 * hours + minutes)
      else none
  | _ => none

/-- The text after the fraction of a second, if there is one. -/
def afterFraction? : List Char → Option (List Char)
  | '.' :: c :: cs => if c.isDigit then some (cs.dropWhile Char.isDigit) else none
  | '.' :: [] => none
  | cs => some cs

def isTime : List Char → Bool
  | a :: b :: ':' :: c :: d :: ':' :: e :: f :: rest =>
      match twoDigits? [a, b], twoDigits? [c, d], twoDigits? [e, f],
        (afterFraction? rest).bind offset? with
      | some hour, some minute, some second, some offset =>
          hour ≤ 23 && minute ≤ 59 &&
            (second ≤ 59 || (second = 60 && (60 * hour + minute + 1440 - offset) % 1440 = 1439))
      | _, _, _, _ => false
  | _ => false

/-- A date and a time of day with the letter `T` between them. -/
def isMoment (cs : List Char) : Bool :=
  let isMark (c : Char) : Bool := c = 'T' || c = 't'
  match cs.dropWhile (!isMark ·) with
  | _ :: time => isDate (cs.takeWhile (!isMark ·)) && isTime time
  | [] => false

end Dialogue.Text.Clock
