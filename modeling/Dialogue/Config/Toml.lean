import Dialogue.Config.Toml.Value

/-!
# Configuration files

A configuration file is a sequence of statements with blank lines and comments between them: the
header of a table, the header of one more table under a name, or a key with a value. A statement
ends with its line. A mark of the byte order at the front is passed over.
-/
namespace Dialogue.Toml

inductive Statement where
  | header (path : List String)
  | nextHeader (path : List String)
  | entry (path : List String) (value : Setting)

/-- What follows the end of a line, before which only gaps and a comment may stand. -/
def endLine? (cs : List Char) : Option (List Char) :=
  let rest :=
    match skipGaps cs with
    | '#' :: cs => cs.dropWhile (!isControl ·)
    | cs => cs
  if rest.isEmpty then some [] else afterLineEnd? rest

/-- The statement at the front of a line, up to the end of its own characters. -/
def readStatement? : List Char → Option (Statement × List Char)
  | '[' :: '[' :: cs => do
      let (path, rest) ← readKey? cs
      return (.nextHeader path, ← after? ']' (← after? ']' rest))
  | '[' :: cs => do
      let (path, rest) ← readKey? cs
      return (.header path, ← after? ']' rest)
  | cs => do
      let (path, rest) ← readKey? cs
      let (value, rest) ← readValue? (skipGaps (← after? '=' rest))
      return (.entry path value, rest)

/-- The statements of a text. -/
def statements? : (fuel : Nat) → List Char → Option (List Statement)
  | 0, _ => none
  | fuel + 1, cs =>
      match skipGaps cs with
      | [] => some []
      | c :: cs =>
          if c = '#' ∨ c = '\r' ∨ c = '\n' then (endLine? (c :: cs)).bind (statements? fuel)
          else do
            let (statement, rest) ← readStatement? (c :: cs)
            return statement :: (← statements? fuel (← endLine? rest))

/-- A file read so far: its tables and the last header. -/
structure Draft where
  items : Items := []
  header : List String := []

def Draft.add? (d : Draft) : Statement → Option Draft
  | .header path => do return ⟨← openTable? path d.items, path⟩
  | .nextHeader path => do return ⟨← openNext? path d.items, path⟩
  | .entry path value => do return { d with items := ← defineIn? d.header path value d.items }

/-- The settings that a file writes. -/
def settings? (text : String) : Option Settings := do
  let cs :=
    match text.toList with
    | '\uFEFF' :: cs => cs
    | cs => cs
  let statements ← statements? (cs.length + 1) cs
  return settingsOf (← statements.foldlM Draft.add? {}).items

end Dialogue.Toml
