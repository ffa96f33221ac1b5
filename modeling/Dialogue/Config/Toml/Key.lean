import Dialogue.Config.Toml.Text

/-!
# Keys in configuration files

A key is one or more parts with points between them; a part is plain or a text on one line.
-/
namespace Dialogue.Toml

def isPlainKeyChar (c : Char) : Bool := c.isAlphanum || c = '_' || c = '-'

def readKeyPart? (cs : List Char) : Option (String × List Char) :=
  let part := cs.takeWhile isPlainKeyChar
  if part.isEmpty then readShortText? cs
  else some (String.ofList part, cs.dropWhile isPlainKeyChar)

/-- The most parts of a key. -/
def maxKeyParts : Nat := 79

/-- Up to `room` parts of a key with points between them. -/
def readKeyParts? : (room : Nat) → List Char → Option (List String × List Char)
  | 0, _ => none
  | room + 1, cs => do
      let (part, rest) ← readKeyPart? (skipGaps cs)
      match skipGaps rest with
      | '.' :: more =>
          let (parts, rest) ← readKeyParts? room more
          return (part :: parts, rest)
      | rest => return ([part], rest)

/-- A key and what comes after it and the gaps. -/
def readKey? (cs : List Char) : Option (List String × List Char) := readKeyParts? maxKeyParts cs

end Dialogue.Toml
