import Dialogue.Json.Basic
import Dialogue.Number.Layout

/-!
# JSON text of a value

The compact text has no blanks; the indented text puts every item and field on a line of its own,
two spaces deeper than the bracket around it. In strings the quote, the backslash and the controls
below the space are escaped, everything else stands as itself. A float always shows that it is one:
it has a point or an exponent.
-/
namespace Dialogue.Json

/-- Floats are written positionally from `0.00001` up to, but not including, `10 ^ 16`. -/
def floatLayout : DecimalLayout := ⟨-5, 16⟩

def intText : Int → List Char
  | .ofNat n => Nat.toDigits 10 n
  | .negSucc n => '-' :: Nat.toDigits 10 (n + 1)

def floatText (x : Binary64) : List Char :=
  let body := if x.mantissa = 0 then "0.0".toList else floatLayout.write x.shortest
  if x.negative then '-' :: body else body

def numberText : Number → List Char
  | .whole n => intText n.value
  | .float x => floatText x

/-- One character inside a string. -/
def escapedChar (c : Char) : List Char :=
  if c = '"' then ['\\', '"']
  else if c = '\\' then ['\\', '\\']
  else if c.toNat = 8 then ['\\', 'b']
  else if c.toNat = 9 then ['\\', 't']
  else if c.toNat = 10 then ['\\', 'n']
  else if c.toNat = 12 then ['\\', 'f']
  else if c.toNat = 13 then ['\\', 'r']
  else if c.toNat < 0x20 then
    ['\\', 'u', '0', '0', Nat.digitChar (c.toNat / 16), Nat.digitChar (c.toNat % 16)]
  else [c]

def stringText (s : String) : List Char := '"' :: s.toList.flatMap escapedChar ++ ['"']

mutual

/-- The compact text. -/
def chars : Json → List Char
  | .null => "null".toList
  | .bool b => if b then "true".toList else "false".toList
  | .num n => numberText n
  | .str s => stringText s
  | .arr items => '[' :: itemChars items ++ [']']
  | .obj fields => '{' :: fieldChars fields ++ ['}']
termination_by structural j => j

/-- Items with commas between them. -/
def itemChars : List Json → List Char
  | [] => []
  | [j] => chars j
  | j :: k :: rest => chars j ++ ',' :: itemChars (k :: rest)
termination_by structural items => items

/-- Fields with commas between them. -/
def fieldChars : List (String × Json) → List Char
  | [] => []
  | [(k, j)] => stringText k ++ ':' :: chars j
  | (k, j) :: f :: rest => stringText k ++ ':' :: chars j ++ ',' :: fieldChars (f :: rest)
termination_by structural fields => fields

end

/-- The compact text of a value. -/
def compact (j : Json) : String := String.ofList j.chars

/-- A new line with the indentation of `level`. -/
def newLine (level : Nat) : List Char := '\n' :: List.replicate (2 * level) ' '

mutual

/-- The indented text of a value that stands at `level`. -/
def indentedAt (level : Nat) : Json → List Char
  | .arr [] => ['[', ']']
  | .arr (j :: rest) =>
      '[' :: newLine (level + 1) ++ indentedAt (level + 1) j ++ indentedItems (level + 1) rest ++
        newLine level ++ [']']
  | .obj [] => ['{', '}']
  | .obj ((k, j) :: rest) =>
      '{' :: newLine (level + 1) ++ stringText k ++ ':' :: ' ' :: indentedAt (level + 1) j ++
        indentedFields (level + 1) rest ++ newLine level ++ ['}']
  | j => chars j
termination_by structural j => j

/-- The items after the first. -/
def indentedItems (level : Nat) : List Json → List Char
  | [] => []
  | j :: rest => ',' :: newLine level ++ indentedAt level j ++ indentedItems level rest
termination_by structural items => items

/-- The fields after the first. -/
def indentedFields (level : Nat) : List (String × Json) → List Char
  | [] => []
  | (k, j) :: rest =>
      ',' :: newLine level ++ stringText k ++ ':' :: ' ' :: indentedAt level j ++
        indentedFields level rest
termination_by structural fields => fields

end

/-- The indented text of a value. -/
def indented (j : Json) : String := String.ofList (indentedAt 0 j)

/-- How a value shows inside a text: a string as itself, null as nothing, the rest as JSON. -/
def shown : Json → String
  | .null => ""
  | .str s => s
  | j => j.compact

end Dialogue.Json
