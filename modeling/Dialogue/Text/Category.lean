import Dialogue.Text.Alphanumeric
import Dialogue.Text.Blank
import Dialogue.Text.CategoryTable
import Dialogue.Text.Script

/-!
# Classes of characters by name

A category has a short and a long name, and so has a group of categories. A class is named by one of
these, by a script, or by one of a few words. In a name, letter case, blanks, low lines and hyphens
make no difference, nor does the word `is` in front.
-/
namespace Dialogue.Text

namespace Category

/-- A character is of the category. -/
def contains (category : Category) (c : Char) : Bool :=
  category.runs.any fun (first, last, stride) =>
    first ≤ c.toNat && c.toNat ≤ last && (c.toNat - first) % stride == 0

/-- All categories with their names. -/
def names : List (Category × List String) :=
  [(uppercaseLetter, ["lu", "uppercaseletter"]), (lowercaseLetter, ["ll", "lowercaseletter"]),
    (titlecaseLetter, ["lt", "titlecaseletter"]), (modifierLetter, ["lm", "modifierletter"]),
    (otherLetter, ["lo", "otherletter"]), (nonspacingMark, ["mn", "nonspacingmark"]),
    (spacingMark, ["mc", "spacingmark"]), (enclosingMark, ["me", "enclosingmark"]),
    (decimalNumber, ["nd", "decimalnumber", "digit"]), (letterNumber, ["nl", "letternumber"]),
    (otherNumber, ["no", "othernumber"]), (connectorPunctuation, ["pc", "connectorpunctuation"]),
    (dashPunctuation, ["pd", "dashpunctuation"]), (openPunctuation, ["ps", "openpunctuation"]),
    (closePunctuation, ["pe", "closepunctuation"]),
    (initialPunctuation, ["pi", "initialpunctuation"]),
    (finalPunctuation, ["pf", "finalpunctuation"]), (otherPunctuation, ["po", "otherpunctuation"]),
    (mathSymbol, ["sm", "mathsymbol"]), (currencySymbol, ["sc", "currencysymbol"]),
    (modifierSymbol, ["sk", "modifiersymbol"]), (otherSymbol, ["so", "othersymbol"]),
    (spaceSeparator, ["zs", "spaceseparator"]), (lineSeparator, ["zl", "lineseparator"]),
    (paragraphSeparator, ["zp", "paragraphseparator"]), (control, ["cc", "control", "cntrl"]),
    (format, ["cf", "format"]), (privateUse, ["co", "privateuse"])]

def letters : List Category :=
  [uppercaseLetter, lowercaseLetter, titlecaseLetter, modifierLetter, otherLetter]

def marks : List Category := [nonspacingMark, spacingMark, enclosingMark]

def numbers : List Category := [decimalNumber, letterNumber, otherNumber]

def punctuation : List Category :=
  [connectorPunctuation, dashPunctuation, openPunctuation, closePunctuation, initialPunctuation,
    finalPunctuation, otherPunctuation]

def symbols : List Category := [mathSymbol, currencySymbol, modifierSymbol, otherSymbol]

def separators : List Category := [spaceSeparator, lineSeparator, paragraphSeparator]

def assigned : List Category :=
  letters ++ marks ++ numbers ++ punctuation ++ symbols ++ separators ++
    [control, format, privateUse]

/-- The groups of categories with their names. -/
def groups : List (List Category × List String) :=
  [(letters, ["l", "letter"]),
    ([uppercaseLetter, lowercaseLetter, titlecaseLetter], ["lc", "casedletter"]),
    (marks, ["m", "mark", "combiningmark"]), (numbers, ["n", "number"]),
    (punctuation, ["p", "punctuation", "punct"]), (symbols, ["s", "symbol"]),
    (separators, ["z", "separator"]), (assigned, ["assigned"])]

end Category

/-- A character is of one of the categories. -/
def isOfCategory (categories : List Category) (c : Char) : Bool := categories.any (·.contains c)

/-- A class of characters that has a name. -/
inductive NamedClass where
  | categories (of : List Category)
  | unassigned
  /-- Controls, format characters, private and unassigned ones. -/
  | other
  | any
  | ascii
  | alphabetic
  | lower
  | upper
  | blank
  | script (s : Script)
  /-- What stands in words: letters, marks, digits, joining lines and characters that join. -/
  | word
  deriving Repr, DecidableEq

/-- Characters in lower case that are not letters in lower case. -/
def otherLowerRanges : List (Nat × Nat) :=
  [(0xAA, 0xAA), (0xBA, 0xBA), (0x2B0, 0x2B8), (0x2C0, 0x2C1), (0x2E0, 0x2E4), (0x345, 0x345),
    (0x37A, 0x37A), (0x10FC, 0x10FC), (0x1D2C, 0x1D6A), (0x1D78, 0x1D78), (0x1D9B, 0x1DBF),
    (0x2071, 0x2071), (0x207F, 0x207F), (0x2090, 0x209C), (0x2170, 0x217F), (0x24D0, 0x24E9),
    (0x2C7C, 0x2C7D), (0xA69C, 0xA69D), (0xA770, 0xA770), (0xA7F2, 0xA7F4), (0xA7F8, 0xA7F9),
    (0xAB5C, 0xAB5F), (0xAB69, 0xAB69), (0x10780, 0x10780), (0x10783, 0x10785), (0x10787, 0x107B0),
    (0x107B2, 0x107BA), (0x1E030, 0x1E06D)]

/-- Characters in upper case that are not letters in upper case. -/
def otherUpperRanges : List (Nat × Nat) :=
  [(0x2160, 0x216F), (0x24B6, 0x24CF), (0x1F130, 0x1F149), (0x1F150, 0x1F169), (0x1F170, 0x1F189)]

namespace NamedClass

def contains : NamedClass → Char → Bool
  | categories of, c => isOfCategory of c
  | unassigned, c => !isOfCategory Category.assigned c
  | other, c =>
      isOfCategory [.control, .format, .privateUse] c || !isOfCategory Category.assigned c
  | any, _ => true
  | ascii, c => c.toNat < 0x80
  | alphabetic, c => isAlphanumeric c && !isOfCategory [.decimalNumber, .otherNumber] c
  | lower, c => isOfCategory [.lowercaseLetter] c || inRanges otherLowerRanges c
  | upper, c => isOfCategory [.uppercaseLetter] c || inRanges otherUpperRanges c
  | blank, c => isBlank c
  | script s, c => s.contains c
  | word, c =>
      if c.toNat < 0x80 then c.isAlphanum || c = '_'
      else
        (isAlphanumeric c && !isOfCategory [.otherNumber] c) || c.toNat = 0x200C ||
          c.toNat = 0x200D || isOfCategory (.connectorPunctuation :: Category.marks) c

/-- The letters and digits of a name in lower case, without the word `is` in front. -/
def plainName (name : String) : String :=
  let cs := (name.toList.filter fun c => c != ' ' && c != '_' && c != '-').map Char.toLower
  match cs with
  | 'i' :: 's' :: rest => if rest = ['c'] then String.ofList cs else String.ofList rest
  | cs => String.ofList cs

/-- The class of a category or of a group of them. -/
def ofCategoryName? (name : String) : Option NamedClass :=
  let name := plainName name
  let one := (Category.names.find? fun e => e.2.contains name).map fun e => categories [e.1]
  let group := (Category.groups.find? fun e => e.2.contains name).map fun e => categories e.1
  let word :=
    [("any", any), ("ascii", ascii), ("c", other), ("other", other), ("cn", unassigned),
      ("unassigned", unassigned)].lookup name
  one <|> group <|> word

/-- The class of a script. -/
def ofScriptName? (name : String) : Option NamedClass :=
  (Script.ofName? (plainName name)).map script

/-- The class of a name. -/
def ofName? (name : String) : Option NamedClass :=
  let word :=
    [("alpha", alphabetic), ("alphabetic", alphabetic), ("lower", lower), ("lowercase", lower),
      ("upper", upper), ("uppercase", upper), ("space", blank), ("whitespace", blank),
      ("wspace", blank)].lookup (plainName name)
  word <|> ofCategoryName? name <|> ofScriptName? name

end NamedClass

end Dialogue.Text
