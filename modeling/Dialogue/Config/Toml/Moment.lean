import Dialogue.Number.Numeral

/-!
# Moments in configuration files

A moment is a date, a time of day, or both, the last perhaps with an offset from the common time.
Settings keep a moment as its text: the date and the time with the letter `T` between them, the
fraction of a second with at most nine digits and no zeros at its end.
-/
namespace Dialogue.Toml

/-- The number that the first two digits write, if it is within bounds, and what comes after. -/
def twoDigits? (low high : Nat) : List Char → Option (Nat × List Char)
  | a :: b :: cs =>
      let n := digitsValue [a, b]
      if a.isDigit ∧ b.isDigit ∧ low ≤ n ∧ n ≤ high then some (n, cs) else none
  | _ => none

/-- The text after a character that has to be there. -/
def after? (mark : Char) : List Char → Option (List Char)
  | c :: cs => if c = mark then some cs else none
  | [] => none

def daysIn (year month : Nat) : Nat :=
  if month = 2 then
    if year % 4 = 0 ∧ (year % 100 ≠ 0 ∨ year % 400 = 0) then 29 else 28
  else if month ∈ [4, 6, 9, 11] then 30
  else 31

/-- A date, as its text, and what comes after. -/
def readDate? (cs : List Char) : Option (List Char × List Char) := do
  let year := cs.take 4
  if year.length < 4 ∨ !year.all Char.isDigit then none
  let rest ← after? '-' (cs.drop 4)
  let (month, rest) ← twoDigits? 1 12 rest
  let rest ← after? '-' rest
  let (_, rest) ← twoDigits? 1 (daysIn (digitsValue year) month) rest
  return (cs.take (cs.length - rest.length), rest)

/-- The digits of a fraction of a second as they are kept: nine at most, no zeros at the end. -/
def keptFraction (ds : List Char) : List Char := ((ds.take 9).reverse.dropWhile (· = '0')).reverse

/-- A time of day, as its text, and what comes after. -/
def readTime? (cs : List Char) : Option (List Char × List Char) := do
  let (_, rest) ← twoDigits? 0 23 cs
  let rest ← after? ':' rest
  let (_, rest) ← twoDigits? 0 59 rest
  let rest ← after? ':' rest
  let (_, rest) ← twoDigits? 0 60 rest
  match rest with
  | '.' :: fraction =>
      let ds := fraction.takeWhile Char.isDigit
      if ds.isEmpty then none
      let kept := keptFraction ds
      return (cs.take 8 ++ (if kept.isEmpty then [] else '.' :: kept),
        fraction.dropWhile Char.isDigit)
  | rest => return (cs.take 8, rest)

/-- The text of an offset: nothing, the letter `Z`, or a sign with hours and minutes. -/
def offset? : List Char → Option (List Char)
  | [] => some []
  | [c] => if c = 'Z' ∨ c = 'z' then some ['Z'] else none
  | sign :: cs => do
      if sign ≠ '+' ∧ sign ≠ '-' then none
      let (hours, rest) ← twoDigits? 0 23 cs
      let rest ← after? ':' rest
      let (minutes, rest) ← twoDigits? 0 59 rest
      if rest.isEmpty then
        return (if hours = 0 ∧ minutes = 0 then '+' else sign) :: cs
      else none

/-- A time of day after a date, perhaps with an offset. -/
def timeOfDate? (cs : List Char) : Option (List Char) := do
  let (time, rest) ← readTime? cs
  return 'T' :: time ++ (← offset? rest)

/-- A whole text as a moment. -/
def moment? (cs : List Char) : Option (List Char) :=
  match readDate? cs with
  | some (date, []) => some date
  | some (date, c :: rest) =>
      if c ∈ ['T', 't', ' '] then (timeOfDate? rest).map (date ++ ·) else none
  | none =>
      match readTime? cs with
      | some (time, []) => some time
      | _ => none

end Dialogue.Toml
