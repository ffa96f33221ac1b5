import Dialogue.Entries
import Dialogue.Text.Alphanumeric
import Dialogue.Text.Blank

/-!
# Environment files

An environment file gives variables, one a line, as a name, an equals sign and a value. Parts of a
value may be quoted; outside single quotes a backslash escapes and a `$` is replaced by the value of
a variable. A line goes on where its end is quoted. A comment may follow after a blank. The file is
read up to its first faulty line.
-/
namespace Dialogue.EnvFile

/-- The environment: variables with their values, an earlier one before a later one of that name. -/
abbrev Environment := List (String × String)

/-- The value of a variable, empty if there is none. -/
def valueOf (environment : Environment) (name : List Char) : List Char :=
  ((environment.lookup (String.ofList name)).getD "").toList

/-- What the characters that come next belong to. -/
inductive Mode where
  | plain
  | singleQuoted
  | doubleQuoted
  /-- After a backslash, inside double quotes or not. -/
  | escape (quoted : Bool)
  /-- In the name of a variable, read so far in reverse. -/
  | name (quoted : Bool) (name : List Char)
  /-- In such a name between braces. -/
  | bracedName (quoted : Bool) (name : List Char)
  /-- After the value. -/
  | done

def Mode.ofQuoted (quoted : Bool) : Mode := if quoted then .doubleQuoted else .plain

/-- The mode after a character that is neither quoted singly nor part of a name, and what it adds.
-/
def Mode.afterOpen (quoted : Bool) (c : Char) : Mode × List Char :=
  if c = '$' then (.name quoted [], [])
  else if c = '\\' then (.escape quoted, [])
  else if c = '"' then (.ofQuoted (!quoted), [])
  else if quoted then (.doubleQuoted, [c])
  else if c = '\'' then (.singleQuoted, [])
  else if c = ' ' ∨ c = '\t' then (.done, [])
  else (.plain, [c])

/-- What an escape stands for. -/
def escaped? (c : Char) : Option Char :=
  if c = 'n' then some '\n'
  else if c = '\\' ∨ c = '\'' ∨ c = '"' ∨ c = '$' ∨ c = ' ' then some c
  else none

/-- The value that the characters of a line write. -/
def readValue? (environment : Environment) : Mode → List Char → Option (List Char)
  | .plain, [] => some []
  | .escape false, [] => some []
  | .done, [] => some []
  | .name false name, [] => some (valueOf environment name.reverse)
  | _, [] => none
  | .done, c :: cs =>
      if c = ' ' ∨ c = '\t' then readValue? environment .done cs
      else if c = '#' then some []
      else none
  | .escape quoted, c :: cs =>
      match escaped? c with
      | some d => (readValue? environment (.ofQuoted quoted) cs).map (d :: ·)
      | none => none
  | .singleQuoted, c :: cs =>
      if c = '\'' then readValue? environment .plain cs
      else (readValue? environment .singleQuoted cs).map (c :: ·)
  | .bracedName quoted name, c :: cs =>
      if c = '}' then
        (readValue? environment (.ofQuoted quoted) cs).map (valueOf environment name.reverse ++ ·)
      else readValue? environment (.bracedName quoted (c :: name)) cs
  | .name quoted name, c :: cs =>
      if Text.isAlphanumeric c then readValue? environment (.name quoted (c :: name)) cs
      else if c = '{' ∧ name = [] then readValue? environment (.bracedName quoted []) cs
      else if c = '$' then
        (readValue? environment (.name quoted []) cs).map (valueOf environment name.reverse ++ ·)
      else
        (readValue? environment (.ofQuoted quoted) cs).map fun rest =>
          valueOf environment name.reverse ++ c :: rest
  | .plain, c :: cs =>
      let (mode, added) := Mode.afterOpen false c
      (readValue? environment mode cs).map (added ++ ·)
  | .doubleQuoted, c :: cs =>
      let (mode, added) := Mode.afterOpen true c
      (readValue? environment mode cs).map (added ++ ·)

/-- The name of a variable at the front of a line, and the text after it and the blanks. -/
def readName? (cs : List Char) : Option (String × List Char) :=
  let isInside (c : Char) : Bool := c.isAlphanum || c = '_' || c = '.'
  match cs with
  | [] => none
  | c :: _ =>
      if c.isAlpha || c = '_' then
        some (String.ofList (cs.takeWhile isInside), Text.trimStart (cs.dropWhile isInside))
      else none

/-- The name that a line sets and the text of its value; the name may follow the word `export`. -/
def readAssignment? (cs : List Char) : Option (String × List Char) := do
  match ← readName? cs with
  | (name, '=' :: rest) => return (name, Text.trimStart rest)
  | ("export", rest) =>
      match ← readName? rest with
      | (name, '=' :: rest) => return (name, Text.trimStart rest)
      | _ => none
  | _ => none

/-- The variables after a line; nothing where the line is faulty. -/
def addLine? (environment : Environment) (cs : List Char) : Option Environment :=
  match Text.trim cs with
  | [] => some environment
  | '#' :: _ => some environment
  | cs => do
      let (name, rest) ← readAssignment? cs
      let value ←
        match rest with
        | [] => some []
        | '#' :: _ => some []
        | rest => readValue? environment .plain rest
      return environment ++ [(name, String.ofList value)]

/-- What the text of a line so far leaves open. -/
inductive Opening where
  | nothing
  /-- After a blank, where a comment may begin. -/
  | blank
  | escape
  | single (escape : Bool)
  | double (escape : Bool)
  | comment
  deriving Repr, DecidableEq

/-- A quotation in which no escape is open. -/
def Opening.inQuotes (quote : Char) (same : Bool → Opening) (c : Char) : Opening :=
  if c = '\\' then same true else if c = quote then .nothing else same false

/-- What is open after one more character. Of two blanks in a row the second lets no comment begin.
-/
def Opening.next (o : Opening) (c : Char) : Opening :=
  match o with
  | .escape => .nothing
  | .single true => .single false
  | .single false => .inQuotes '\'' .single c
  | .double true => .double false
  | .double false => .inQuotes '"' .double c
  | .comment => if c = '\n' then .nothing else .comment
  | .nothing | .blank =>
      if c = '\\' then .escape
      else if c = '"' then .double false
      else if c = '\'' then .single false
      else if o = .nothing ∧ Text.isBlank c ∧ c ≠ '\n' ∧ c ≠ '\r' then .blank
      else .nothing

/-- The lines of a text after `line`, which is given backwards. A line ends at a line end that is
not quoted; its comment is left out. The text may end neither in a quotation nor after a backslash
or a blank that lets a comment begin: what it leaves so is no line. -/
def linesAfter : Opening → (line : List Char) → List Char → List (List Char)
  | o, line, [] => if o = .nothing ∨ o = .comment then [line.reverse] else []
  | o, line, c :: cs =>
      if c = '\n' ∧ o.next c = .nothing then line.reverse :: linesAfter .nothing [] cs
      else if o = .comment then linesAfter .comment line cs
      else if c = '#' ∧ (o = .blank ∨ line.all Text.isBlank) then linesAfter .comment line cs
      else linesAfter (o.next c) (c :: line) cs

/-- The lines of a file. A mark of the byte order at the front is passed over. -/
def lines (text : String) : List (List Char) :=
  match text.toList with
  | '\uFEFF' :: cs => linesAfter .nothing [] cs
  | cs => linesAfter .nothing [] cs

/-- The variables after the lines of a file, up to the first that is faulty. A variable that is set
already keeps its value. -/
def addLines : List (List Char) → Environment → Environment
  | [], environment => environment
  | line :: rest, environment =>
      match addLine? environment line with
      | some environment => addLines rest environment
      | none => environment

end Dialogue.EnvFile
