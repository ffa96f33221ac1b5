import Dialogue.Expression.Parser
import Dialogue.Json.Printer

/-!
# Templates

A template is text with holes. A hole is a path between double braces, with blanks around it if need
be; it is written without the `$` of an expression. Holes are found from left to right and do not
overlap. Everything else is kept as it stands, and the text that fills a hole is not looked at
again.
-/
namespace Dialogue

/-- A part of a template: a character that is kept, or a hole. -/
inductive Piece where
  | char (c : Char)
  | hole (root : Root) (segments : List String)
  deriving Repr, DecidableEq

namespace Template

/-- The hole that a text begins with, and the text after it. -/
def readHole? (cs : List Char) : Option ((Root × List String) × List Char) := do
  let rest ← Text.dropLeading? ['{', '{'] cs
  let (path, rest) ← readPath? (Text.trimStart rest)
  let rest ← Text.dropLeading? ['}', '}'] (Text.trimStart rest)
  return (path, rest)

/-- The pieces of a text whose first `skip` characters belong to a hole that was met before. -/
def piecesAfter : (skip : Nat) → List Char → List Piece
  | _, [] => []
  | skip + 1, _ :: cs => piecesAfter skip cs
  | 0, c :: cs =>
      match readHole? (c :: cs) with
      | some ((root, segments), rest) =>
          .hole root segments :: piecesAfter (cs.length - rest.length) cs
      | none => .char c :: piecesAfter 0 cs

def pieces (template : String) : List Piece := piecesAfter 0 template.toList

/-- What a piece becomes. -/
def fill (ctx : Context) : Piece → List Char
  | .char c => [c]
  | .hole root segments => (Expr.resolve ctx root segments).shown.toList

end Template

/-- A template with its holes filled. -/
def Context.render (ctx : Context) (template : String) : String :=
  String.ofList ((Template.pieces template).flatMap (Template.fill ctx))

end Dialogue
