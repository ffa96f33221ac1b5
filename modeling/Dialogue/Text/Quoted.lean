import Dialogue.Text.PrintableTable
import Dialogue.Text.Ranges

/-!
# Texts shown in double quotes

How a message shows a text that it found: between double quotes, with quotes, backslashes and the
common controls escaped by a letter and every other character that does not print as itself escaped
by its code point in hexadecimal.
-/
namespace Dialogue.Text

/-- The hexadecimal digits of a number, without leading zeros. -/
def hexDigits (n : Nat) : List Char := Nat.toDigits 16 n

def isPrintable (c : Char) : Bool := !inRanges unprintableRanges c

/-- One character as it stands between the quotes. -/
def quotedChar (c : Char) : List Char :=
  if c = '"' then ['\\', '"']
  else if c = '\\' then ['\\', '\\']
  else if c = '\n' then ['\\', 'n']
  else if c = '\r' then ['\\', 'r']
  else if c = '\t' then ['\\', 't']
  else if c.toNat = 0 then ['\\', '0']
  else if isPrintable c then [c]
  else ['\\', 'u', '{'] ++ hexDigits c.toNat ++ ['}']

/-- A text in double quotes. -/
def quoted (s : String) : String :=
  String.ofList ('"' :: s.toList.flatMap quotedChar ++ ['"'])

end Dialogue.Text
