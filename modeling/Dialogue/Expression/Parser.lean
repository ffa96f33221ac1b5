import Dialogue.Expression.Basic
import Dialogue.Text.Blank
import Dialogue.Text.Leading

/-!
# The text of expressions

An expression is written with a `$` in front: `$vars.a.b`, `$input`, `$len(…)`, `$map(…,
'property')`. Space, tab and line ends may stand between the parts of a call but not inside a path,
and any blanks around the whole. A property is quoted by either quote and holds anything but that
quote.

A text that does not begin with `$`, or does so but is no expression, is a literal: its value is the
text itself, as written.
-/
namespace Dialogue

/-- What may stand between the parts of a call. -/
def isGap (c : Char) : Bool := c = ' ' || c = '\t' || c = '\r' || c = '\n'

def skipGaps (cs : List Char) : List Char := cs.dropWhile isGap

/-- What a segment of a path is made of. -/
def isSegmentChar (c : Char) : Bool := c.isAlphanum || c = '_' || c = '-'

namespace Root

/-- The root that a text begins with. -/
def read? (cs : List Char) : Option (Root × List Char) :=
  match Text.dropLeading? vars.name.toList cs with
  | some rest => some (vars, rest)
  | none => (Text.dropLeading? input.name.toList cs).map fun rest => (input, rest)

end Root

/-- The segments that a run of segment characters and points writes: a point stands before each. -/
def segments? (run : List Char) : Option (List String) :=
  match Text.splitAt '.' run with
  | [] :: pieces => if pieces.any List.isEmpty then none else some (pieces.map String.ofList)
  | _ => none

/-- A root and its segments. -/
def readPath? (cs : List Char) : Option ((Root × List String) × List Char) := do
  let (root, rest) ← Root.read? cs
  let isPathChar (c : Char) : Bool := isSegmentChar c || c = '.'
  let segments ← segments? (rest.takeWhile isPathChar)
  return ((root, segments), rest.dropWhile isPathChar)

namespace Expr

/-- The text after a character, with the gaps before it. -/
def expect? (c : Char) (cs : List Char) : Option (List Char) :=
  match skipGaps cs with
  | d :: rest => if d = c then some rest else none
  | [] => none

/-- A property in quotes. -/
def readProperty? (cs : List Char) : Option (String × List Char) :=
  match cs with
  | [] => none
  | quote :: rest =>
      if quote = '\'' ∨ quote = '"' then
        match rest.dropWhile (· ≠ quote) with
        | [] => none
        | _ :: after => some (String.ofList (rest.takeWhile (· ≠ quote)), after)
      else none

/-- An expression other than a literal; calls are nested less deep than `fuel`. -/
def read? : (fuel : Nat) → List Char → Option (Expr × List Char)
  | 0, _ => none
  | fuel + 1, cs =>
      match Text.dropLeading? "$len".toList cs with
      | some rest => do
          let rest ← expect? '(' rest
          let (inner, rest) ← read? fuel (skipGaps rest)
          let rest ← expect? ')' rest
          return (len inner, rest)
      | none =>
          match Text.dropLeading? "$map".toList cs with
          | some rest => do
              let rest ← expect? '(' rest
              let (source, rest) ← read? fuel (skipGaps rest)
              let rest ← expect? ',' rest
              let (property, rest) ← readProperty? (skipGaps rest)
              let rest ← expect? ')' rest
              return (map source property, rest)
          | none => do
              let rest ← Text.dropLeading? ['$'] cs
              let ((root, segments), rest) ← readPath? rest
              return (path root segments, rest)

/-- The expression that a whole text writes. -/
def ofChars? (cs : List Char) : Option Expr := do
  let (e, rest) ← read? (cs.length + 1) (skipGaps cs)
  if (skipGaps rest).isEmpty then return e else none

/-- The text is meant as an expression. -/
def isMarked (source : String) : Bool := (Text.trimStart source.toList).head? = some '$'

/-- The expression that a text writes; there is none when it begins with `$` but is no expression.
-/
def ofText? (source : String) : Option Expr :=
  if isMarked source then ofChars? (Text.trim source.toList) else some (literal source)

/-- The expression that a text writes, or the text as a literal. -/
def ofText (source : String) : Expr := (ofText? source).getD (literal source)

end Expr

/-- The value of a text taken as an expression. -/
def Context.evaluate (ctx : Context) (source : String) : Json := (Expr.ofText source).evaluate ctx

end Dialogue
