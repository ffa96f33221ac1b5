import Dialogue.Config.Toml.Key
import Dialogue.Config.Toml.Scalar
import Dialogue.Config.Toml.Table

/-!
# Values in configuration files

A value is a text, a plain value, a list in brackets or a table in braces. Line ends and comments
may stand between the items of a list; a table in braces stands on one line but for what is inside
its values. Lists and tables may be nested, up to a depth.
-/
namespace Dialogue.Toml

/-- What follows gaps, line ends and comments. -/
def skipLoose : (inComment : Bool) → List Char → List Char
  | _, [] => []
  | inComment, c :: cs =>
      if c = '\n' ∨ (c = '\r' ∧ cs.head? = some '\n') then skipLoose (inComment && c = '\r') cs
      else if inComment then (if isControl c then c :: cs else skipLoose true cs)
      else if isGap c then skipLoose false cs
      else if c = '#' then skipLoose true cs
      else c :: cs

/-- The items of a list up to the closing bracket; a comma may follow the last one. -/
def readItems? (read : List Char → Option (Setting × List Char)) :
    (fuel : Nat) → List Char → Option (List Setting × List Char)
  | 0, _ => none
  | fuel + 1, cs =>
      match skipLoose false cs with
      | ']' :: rest => some ([], rest)
      | cs => do
          let (item, rest) ← read cs
          match skipLoose false rest with
          | ',' :: rest =>
              let (items, rest) ← readItems? read fuel rest
              return (item :: items, rest)
          | ']' :: rest => return ([item], rest)
          | _ => none

/-- The keys and values of a table up to the closing brace. -/
def readPairs? (read : List Char → Option (Setting × List Char)) :
    (fuel : Nat) → List Char → Option (List (List String × Setting) × List Char)
  | 0, _ => none
  | fuel + 1, cs => do
      let (path, rest) ← readKey? cs
      let (s, rest) ← read (skipGaps (← after? '=' rest))
      match skipGaps rest with
      | ',' :: rest =>
          let (pairs, rest) ← readPairs? read fuel rest
          return ((path, s) :: pairs, rest)
      | '}' :: rest => return ([(path, s)], rest)
      | _ => none

/-- The table of keys and values, none of them defined twice. -/
def tableOfPairs? (pairs : List (List String × Setting)) : Option Setting := do
  let items ← pairs.foldlM (fun items pair => define? pair.1 pair.2 items) []
  return .table (settingsOf items)

/-- The most lists and tables inside each other. -/
def maxDepth : Nat := 79

/-- The value at the front, with `depth` levels of nesting to spare, and what comes after. -/
def readNested? : (depth : Nat) → List Char → Option (Setting × List Char)
  | depth, cs =>
      match cs, depth with
      | '[' :: cs, depth + 1 => do
          let (items, rest) ← readItems? (readNested? depth) (cs.length + 1) cs
          return (.list items, rest)
      | '{' :: cs, depth + 1 =>
          match skipGaps cs with
          | '}' :: rest => some (.table [], rest)
          | cs => do
              let (pairs, rest) ← readPairs? (readNested? depth) (cs.length + 1) cs
              return (← tableOfPairs? pairs, rest)
      | '"' :: _, _ => (readText? cs).map fun (s, rest) => (.text s, rest)
      | '\'' :: _, _ => (readText? cs).map fun (s, rest) => (.text s, rest)
      | cs, _ => readScalar? cs
termination_by structural depth => depth

def readValue? (cs : List Char) : Option (Setting × List Char) := readNested? maxDepth cs

end Dialogue.Toml
