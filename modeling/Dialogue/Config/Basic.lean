import Dialogue.Run.Script
import Dialogue.Validation.Verdict

/-!
# Configuration

What can be configured, and how a configuration is written: four sections with a line for each
value. A text is quoted in the way that needs no escapes, if there is one.
-/
namespace Dialogue

structure Config where
  /-- The file with the schema of envelopes, if it is not the one that comes with the library. -/
  envelopePath : Option String := none
  warningsFail : Bool := ({} : ValidationOptions).warningsFail
  summarizePrompt : String := ({} : RunSetup).summarizePrompt
  /-- The version of envelopes that are read from running text. -/
  defaultVersion : String := "1.0"
  logLevel : String := "info"
  deriving Repr, DecidableEq

namespace Config

/-- The length of the longest run of a character. -/
def longestRun (q : Char) (cs : List Char) : Nat :=
  (cs.foldl
    (fun (run, longest) c => if c = q then (run + 1, max longest (run + 1)) else (0, longest))
    (0, 0)).2

/-- Characters that are written only as escapes. -/
def needsEscape (c : Char) : Bool :=
  (c.toNat < 0x20 && c != '\t' && c != '\n') || c.toNat = 0x7F

/-- What stands around a text: double quotes, between which escapes count, or single quotes, between
which the text stands as it is; one of them, or three, between which lines may end. -/
inductive Quotes where
  | double
  | single
  | threeDouble
  | threeSingle
  deriving Repr, DecidableEq

namespace Quotes

def chars : Quotes → List Char
  | double => ['"']
  | single => ['\'']
  | threeDouble => ['"', '"', '"']
  | threeSingle => ['\'', '\'', '\'']

/-- The first quotes between which the text needs no escapes, if there are any. -/
def suiting (cs : List Char) : Quotes :=
  let lines := cs.contains '\n'
  let escapes := cs.any needsEscape
  let backslash := cs.contains '\\'
  if !lines && !escapes && !backslash && !cs.contains '"' then double
  else if !lines && !escapes && !cs.contains '\'' then single
  else if !escapes && !backslash && longestRun '"' cs < 3 then threeDouble
  else if !escapes && longestRun '\'' cs < 3 then threeSingle
  else if lines then threeDouble
  else double

end Quotes

def hexDigit (n : Nat) : Char := (Nat.digitChar (n % 16)).toUpper

/-- A character other than a quote, between double quotes or between three of them. -/
def escapedChar (lines : Bool) (c : Char) : List Char :=
  if c = '\\' then ['\\', '\\']
  else if c = '\n' then (if lines then ['\n'] else ['\\', 'n'])
  else if c = '\t' then ['\\', 't']
  else if c = '\r' then ['\\', 'r']
  else if c.toNat = 8 then ['\\', 'b']
  else if c.toNat = 12 then ['\\', 'f']
  else if needsEscape c then ['\\', 'u', '0', '0', hexDigit (c.toNat / 16), hexDigit c.toNat]
  else [c]

/-- A text with its escapes. As many as `allowed` double quotes in a row stand as they are, of which
`run` came before. -/
def escapedChars (lines : Bool) (allowed : Nat) : (run : Nat) → List Char → List Char
  | _, [] => []
  | run, c :: cs =>
      if c = '"' then
        if run < allowed then '"' :: escapedChars lines allowed (run + 1) cs
        else '\\' :: '"' :: escapedChars lines allowed 0 cs
      else escapedChar lines c ++ escapedChars lines allowed 0 cs

/-- What stands between quotes for a text. -/
def Quotes.inside (cs : List Char) : Quotes → List Char
  | double => escapedChars false 0 0 cs
  | single => cs
  | threeDouble => escapedChars true 2 0 cs
  | threeSingle => cs

/-- A text in quotes. One in which lines end stands between three quotes, from a new line on. -/
def quotedChars (cs : List Char) : List Char :=
  let quotes := Quotes.suiting cs
  let opening := if cs.contains '\n' then ['\n'] else []
  quotes.chars ++ opening ++ quotes.inside cs ++ quotes.chars

def quoted (s : String) : String := String.ofList (quotedChars s.toList)

def line (key value : String) : String := key ++ " = " ++ value ++ "\n"

def sections (c : Config) : List (String × List String) :=
  [("schema", (c.envelopePath.map fun path => line "envelope_path" (quoted path)).toList),
    ("validation", [line "warnings_fail" (if c.warningsFail then "true" else "false")]),
    ("execution",
      [line "summarize_prompt" (quoted c.summarizePrompt),
        line "default_version" (quoted c.defaultVersion)]),
    ("logging", [line "level" (quoted c.logLevel)])]

/-- The whole configuration, with an empty line between sections. -/
def toToml (c : Config) : String :=
  "\n".intercalate (c.sections.map fun (name, lines) => "[" ++ name ++ "]\n" ++ String.join lines)

def validationOptions (c : Config) : ValidationOptions := ⟨c.warningsFail⟩

end Config

end Dialogue
