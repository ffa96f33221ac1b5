import Dialogue.Text.Category
import Dialogue.Text.Leading
import Dialogue.Text.Lowercase
import Dialogue.Text.Punycode

/-!
# Names of hosts

The name of a host is a list of labels with points between them. The plain rule asks for letters and
digits of any script, hyphens inside, and short labels.

The strict rule goes label by label. A label outside ASCII stands for its written form in letters
and digits, which must be short enough; marks and joiners need the right character before them, and
a few characters need the right company. Where labels run from the right, none changes its
direction. A label that is such a written form must be that of a label.
-/
namespace Dialogue.Text

/-- A name of a host by the plain rule. -/
def isHostname (cs : List Char) : Bool :=
  !cs.isEmpty && cs.length ≤ 255 && cs.head? != some '-' && cs.getLast? != some '-' &&
    (cs.all fun c => isAlphanumeric c || c = '-' || c = '.') &&
    (splitAt '.' cs).all fun label => label.length ≤ 63

/-- What a character stands for in a name. -/
def hostChars (c : Char) : List Char :=
  let n := c.toNat
  if [0x3002, 0xFF0E, 0xFF61].contains n then ['.']
  else if [0xAD, 0x200B, 0x2060, 0xFEFF].contains n || (0xFE00 ≤ n && n ≤ 0xFE0F) then []
  else if 0xFF01 ≤ n && n ≤ 0xFF5E then [(Char.ofNat (n - 0xFEE0)).toLower]
  else lowerChar c

/-- Marks that kill the vowel before them. -/
def isVirama (c : Char) : Bool :=
  [0x94D, 0x9CD, 0xA4D, 0xACD, 0xB4D, 0xBCD, 0xC4D, 0xCCD, 0xD3B, 0xD3C, 0xD4D, 0xDCA, 0xE3A, 0xEBA,
    0xF84, 0x1039, 0x103A, 0x1714, 0x1715, 0x1734, 0x17D2, 0x1A60, 0x1B44, 0x1BAA, 0x1BAB, 0x1BF2,
    0x1BF3, 0x2D7F, 0xA806, 0xA82C, 0xA8C4, 0xA953, 0xA9C0, 0xAAF6, 0xABED].contains c.toNat

/-- Characters that names may hold: those of ASCII, or what shows something. -/
def isHostChar (c : Char) : Bool :=
  if c.toNat < 128 then c.isAlphanum || c = '-'
  else
    c.toNat = 0x200C || c.toNat = 0x200D ||
      isOfCategory
        (Category.letters ++ Category.marks ++ Category.numbers ++ Category.punctuation ++
          Category.symbols) c

/-- Hyphens stand neither at the ends of a label nor third and fourth in a row. -/
def hyphensFit (label : List Char) : Bool :=
  label.head? != some '-' && label.getLast? != some '-' && (label.drop 2).take 2 != ['-', '-']

/-- A label outside ASCII, in small letters. -/
def isWideLabel (label : List Char) : Bool :=
  !label.isEmpty && hyphensFit label && label.all isHostChar &&
    !(label.head?.any (isOfCategory Category.marks)) && (Punycode.encode label).length ≤ 59

/-- The label that a label in small letters stands for. -/
def label? (label : List Char) : Option (List Char) :=
  match dropLeading? "xn--".toList label with
  | some written => do
      let wide ← Punycode.decode? written
      let isPlain := wide.all fun c => c.toNat < 128
      if isPlain ∨ !isWideLabel wide ∨ Punycode.encode wide ≠ written ∨ 63 < label.length then none
      else return wide
  | none =>
      if label.all fun c => c.toNat < 128 then
        if !label.isEmpty ∧ label.length ≤ 63 ∧ hyphensFit label ∧ label.all isHostChar then
          some label else none
      else if isWideLabel label then some label
      else none

/-- Characters that no name may hold. -/
def isBarred (c : Char) : Bool :=
  let n := c.toNat
  [0x640, 0x7FA, 0x302E, 0x302F, 0x303B].contains n || (0x3031 ≤ n && n ≤ 0x3035)

def isWithin (first last : Nat) (c : Char) : Bool := first ≤ c.toNat && c.toNat ≤ last

/-- Every character has the neighbours that it needs; `before` is the one in front. -/
def companyFits : (before : Option Char) → List Char → Bool
  | _, [] => true
  | before, c :: cs =>
      let n := c.toNat
      (if n = 0x200C || n = 0x200D then before.any isVirama
        else if n = 0xB7 then before == some 'l' && cs.head? == some 'l'
        else if n = 0x375 then cs.head?.any (isWithin 0x370 0x3FF)
        else if n = 0x5F3 || n = 0x5F4 then before.any (isWithin 0x590 0x5FF)
        else !isBarred c) &&
      companyFits (some c) cs

/-- A middle dot needs a character of its scripts, and digits of two kinds do not mix. -/
def scriptsFit (cs : List Char) : Bool :=
  let isJapanese (c : Char) : Bool :=
    isWithin 0x3040 0x309F c || (isWithin 0x30A0 0x30FF c && c.toNat != 0x30FB) ||
      isWithin 0x4E00 0x9FFF c
  (!(cs.any (·.toNat = 0x30FB)) || cs.any isJapanese) &&
    !(cs.any (isWithin 0x660 0x669) && cs.any (isWithin 0x6F0 0x6F9))

/-- How a character runs. -/
inductive Direction where
  | left
  | right
  | digit
  /-- A digit that runs with characters from the right. -/
  | rightDigit
  | mark
  | neutral
  deriving Repr, DecidableEq

def direction (c : Char) : Direction :=
  if c.isDigit || isWithin 0x6F0 0x6F9 c then .digit
  else if isWithin 0x600 0x605 c || isWithin 0x660 0x669 c || c.toNat = 0x6DD then .rightDigit
  else if isOfCategory [.nonspacingMark, .enclosingMark] c then .mark
  else if inRanges [(0x590, 0x8FF), (0xFB1D, 0xFDFF), (0xFE70, 0xFEFF), (0x10800, 0x10FFF),
      (0x1E800, 0x1EFFF)] c then .right
  else if isOfCategory (.spacingMark :: .letterNumber :: Category.letters) c then .left
  else .neutral

/-- A label runs one way: its first character says which, and its last one goes along. -/
def runsOneWay (label : List Direction) : Bool :=
  let ends (kinds : List Direction) : Bool :=
    (label.reverse.dropWhile (· = .mark)).head?.any kinds.contains
  match label.head? with
  | some .right =>
      !label.contains .left && !(label.contains .digit && label.contains .rightDigit) &&
        ends [.right, .digit, .rightDigit]
  | some .left =>
      !label.contains .right && !label.contains .rightDigit && ends [.left, .digit]
  | _ => false

/-- Where any label runs from the right, every label runs one way. -/
def directionsFit (labels : List (List Char)) : Bool :=
  let runs := labels.map (·.map direction)
  !(runs.any fun label => label.contains .right || label.contains .rightDigit) ||
    runs.all runsOneWay

/-- The number of characters of a label in its written form. -/
def writtenLength (label : List Char) : Nat :=
  if label.all fun c => c.toNat < 128 then label.length else (Punycode.encode label).length + 4

/-- A name of a host by the strict rule. -/
def isWideHostname (cs : List Char) : Bool :=
  match (splitAt '.' (cs.flatMap hostChars)).mapM label? with
  | none => false
  | some labels =>
      let whole := ['.'].intercalate labels
      labels.foldl (fun n label => n + writtenLength label + 1) 0 ≤ 254 &&
        companyFits none whole && scriptsFit whole && directionsFit labels

end Dialogue.Text
