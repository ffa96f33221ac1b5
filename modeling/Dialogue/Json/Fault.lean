import Dialogue.Json.Printer
import Dialogue.Text.Quoted
import Dialogue.Text.Utf8

/-!
# What can be wrong with a document

A text can fail to be JSON (`Malformed`), and a value can fail to be what its reader wants
(`Mismatch`). A fault found in a text also has a place, kept as the number of bytes that were still
unread; `Position` turns it into a line and a column. A fault found in a value has none.
-/
namespace Dialogue.Json

/-- Why a text is not JSON. -/
inductive Malformed where
  | endInValue | endInList | endInObject | endInString
  | expectedValue | expectedIdent | expectedColon | expectedListEnd | expectedObjectEnd
  | keyNotString | trailingComma | trailingCharacters
  | invalidNumber | numberOutOfRange
  | invalidEscape | controlCharacter | loneSurrogate | endInEscape
  | tooDeep
  deriving Repr, DecidableEq

namespace Malformed

def message : Malformed → String
  | endInValue => "EOF while parsing a value"
  | endInList => "EOF while parsing a list"
  | endInObject => "EOF while parsing an object"
  | endInString => "EOF while parsing a string"
  | expectedValue => "expected value"
  | expectedIdent => "expected ident"
  | expectedColon => "expected `:`"
  | expectedListEnd => "expected `,` or `]`"
  | expectedObjectEnd => "expected `,` or `\x7d`"
  | keyNotString => "key must be a string"
  | trailingComma => "trailing comma"
  | trailingCharacters => "trailing characters"
  | invalidNumber => "invalid number"
  | numberOutOfRange => "number out of range"
  | invalidEscape => "invalid escape"
  | controlCharacter => "control character (\\u0000-\\u001F) found while parsing a string"
  | loneSurrogate => "lone leading surrogate in hex escape"
  | endInEscape => "unexpected end of hex escape"
  | tooDeep => "recursion limit exceeded"

end Malformed

/-- The kind of value that was found, with its text where it is short. -/
inductive Found where
  | null
  | bool (b : Bool)
  | num (n : Number)
  | str (s : String)
  | sequence
  | map
  deriving Repr, DecidableEq

namespace Found

def ofJson : Json → Found
  | .null => null
  | .bool b => bool b
  | .num n => num n
  | .str s => str s
  | .arr _ => sequence
  | .obj _ => map

def describe : Found → String
  | null => "null"
  | bool b => "boolean `" ++ (if b then "true" else "false") ++ "`"
  | num (.whole n) => "integer `" ++ String.ofList (intText n.value) ++ "`"
  | num (.float x) => "floating point `" ++ String.ofList (floatText x) ++ "`"
  | str s => "string " ++ Text.quoted s
  | sequence => "sequence"
  | map => "map"

end Found

/-- Why a value is not what its reader wants. -/
inductive Mismatch where
  | wrongType (found : Found) (wanted : String)
  | wrongValue (found : Found) (wanted : String)
  | wrongLength (length : Nat) (wanted : String)
  | missingField (name : String)
  | duplicateField (name : String)
  | unknownVariant (name : String) (known : List String)
  /-- The value has the right shape but breaks a rule, which is given in words. -/
  | refused (reason : String)
  deriving Repr, DecidableEq

namespace Mismatch

def ticked (s : String) : String := "`" ++ s ++ "`"

def message : Mismatch → String
  | wrongType found wanted => "invalid type: " ++ found.describe ++ ", expected " ++ wanted
  | wrongValue found wanted => "invalid value: " ++ found.describe ++ ", expected " ++ wanted
  | wrongLength length wanted => s!"invalid length {length}, expected " ++ wanted
  | missingField name => "missing field " ++ ticked name
  | duplicateField name => "duplicate field " ++ ticked name
  | unknownVariant name known =>
      "unknown variant " ++ ticked name ++ ", expected one of " ++
        ", ".intercalate (known.map ticked)
  | refused reason => reason

end Mismatch

/-- What stopped the reading of a text. -/
inductive Cause where
  | malformed (what : Malformed)
  | mismatch (what : Mismatch)
  deriving Repr, DecidableEq

def Cause.message : Cause → String
  | .malformed what => what.message
  | .mismatch what => what.message

/-- What stopped the reading of a text, and how many bytes of it were then unread. -/
structure Fault where
  cause : Cause
  left : Nat
  deriving Repr, DecidableEq

namespace Fault

/-- At the place where `rest` begins. -/
def before (what : Malformed) (rest : List Char) : Fault := ⟨.malformed what, Text.byteLength rest⟩

/-- One byte into `rest`, or at its end. -/
def within (what : Malformed) (rest : List Char) : Fault :=
  ⟨.malformed what, Text.byteLength rest - 1⟩

/-- A mismatch at the place where `rest` begins. -/
def wanted (what : Mismatch) (rest : List Char) : Fault := ⟨.mismatch what, Text.byteLength rest⟩

end Fault

/-- A place in a text: lines count from one, columns are bytes of the line up to the place. -/
structure Position where
  line : Nat
  column : Nat
  deriving Repr, DecidableEq

namespace Position

/-- The place reached from `p` by `budget` more bytes of the text. -/
def advance (p : Position) : Nat → List Char → Position
  | 0, _ => p
  | _, [] => p
  | budget + 1, c :: cs =>
      if budget + 1 < c.utf8Size then ⟨p.line, p.column + (budget + 1)⟩
      else if c = '\n' then advance ⟨p.line + 1, 0⟩ (budget + 1 - c.utf8Size) cs
      else advance ⟨p.line, p.column + c.utf8Size⟩ (budget + 1 - c.utf8Size) cs
termination_by structural _ cs => cs

/-- The place after the first `bytes` bytes of the text. -/
def after (bytes : Nat) (text : List Char) : Position := advance ⟨1, 0⟩ bytes text

end Position

/-- The message of a fault in `text`, which ends with the place. -/
def Fault.message (text : List Char) (fault : Fault) : String :=
  let place := Position.after (Text.byteLength text - fault.left) text
  fault.cause.message ++ s!" at line {place.line} column {place.column}"

end Dialogue.Json
