import Dialogue.Number.Numeral
import Dialogue.Text.Leading

/-!
# Templates of references

A template is a text with expressions in braces. An expression is a list of names, perhaps after a
mark that says how they are put in; a name may be cut to so many characters, or be spread. Names
and percent escapes are written in small letters.
-/
namespace Dialogue.Uri.Template

def isSmallHex (c : Char) : Bool := c.isDigit || ('a' ≤ c && c ≤ 'f')

/-- Characters that stand for themselves outside expressions. -/
def isLiteral (c : Char) : Bool :=
  0x20 < c.toNat && !"\"'<>%\\^`\x7b|\x7d".toList.contains c

def isNameChar (c : Char) : Bool := c.isLower || c.isDigit || c = '_'

/-- The text after the characters of a name and its percent escapes. -/
def afterName : List Char → List Char
  | '%' :: a :: b :: cs =>
      if isSmallHex a && isSmallHex b then afterName cs else '%' :: a :: b :: cs
  | c :: cs => if isNameChar c then afterName cs else c :: cs
  | [] => []

/-- What may follow a name: how much of it counts, or that it is spread. -/
def afterModifier? : List Char → Option (List Char)
  | '*' :: cs => some cs
  | ':' :: c :: cs =>
      if c.isDigit && c != '0' then
        let more := cs.takeWhile Char.isDigit
        if more.length ≤ 3 then some (cs.drop more.length) else none
      else none
  | ':' :: [] => none
  | cs => some cs

/-- One name of an expression. -/
def isItem (cs : List Char) : Bool :=
  let rest := afterName cs
  rest.length < cs.length && afterModifier? rest == some []

/-- The inside of the braces of an expression. -/
def isExpression (cs : List Char) : Bool :=
  let names :=
    match cs with
    | c :: rest => if "+#./;?&=,!@|".toList.contains c then rest else cs
    | [] => []
  (Text.splitAt ',' names).all isItem

/-- A text is a template; `fuel` bounds its parts. -/
def readsAll : (fuel : Nat) → List Char → Bool
  | 0, _ => false
  | _, [] => true
  | fuel + 1, '%' :: a :: b :: cs => isSmallHex a && isSmallHex b && readsAll fuel cs
  | fuel + 1, '\x7b' :: cs =>
      match cs.dropWhile (· ≠ '\x7d') with
      | _ :: rest => isExpression (cs.takeWhile (· ≠ '\x7d')) && readsAll fuel rest
      | [] => false
  | fuel + 1, c :: cs => isLiteral c && readsAll fuel cs

/-- A text is a template. -/
def isTemplate (cs : List Char) : Bool := readsAll (cs.length + 1) cs

end Dialogue.Uri.Template
