import Dialogue.Context
import Dialogue.Text.Ascii
import Dialogue.Number.Numeral

/-!
# Expressions

An expression is a path into the variables or the input, the length of a value, one property of
every object in a list, or a literal text. Every expression has a value in every context: what is
not there is null.

The first name of a path into the variables is a variable's name, whose case does not matter at all.
Below that, and in the input, a name is looked up as written first and then without regard to the
case of ASCII letters; in a list it is an index.
-/
namespace Dialogue

/-- Where a path begins. -/
inductive Root where
  | vars
  | input
  deriving Repr, DecidableEq

inductive Expr where
  | path (root : Root) (segments : List String)
  | len (inner : Expr)
  | map (source : Expr) (property : String)
  | literal (text : String)
  deriving Repr, DecidableEq

namespace Root

def name : Root → String
  | vars => "vars"
  | input => "input"

end Root

namespace Fields

/-- The field with that key, or else the first whose key differs in the case of ASCII letters only.
-/
def lookup (fields : Fields) (key : String) : Option Json :=
  match Entries.get? key fields with
  | some j => some j
  | none => (fields.find? fun f => Text.sameIgnoringAsciiCase f.1 key).map (·.2)

end Fields

namespace Json

/-- The index that decimal digits write. -/
def index? (segment : String) : Option Nat :=
  let ds := segment.toList
  if ds.isEmpty || !ds.all Char.isDigit then none else some (digitsValue ds)

/-- One step into a value. -/
def child? (j : Json) (segment : String) : Option Json :=
  match j with
  | .obj fields => Fields.lookup fields segment
  | .arr items => (index? segment).bind (items[·]?)
  | _ => none

/-- The value at the end of a path, or null. -/
def follow : Json → List String → Json
  | j, [] => j
  | j, segment :: rest =>
      match j.child? segment with
      | some next => follow next rest
      | none => .null

/-- The number of characters of a string or of items of a list, and zero for anything else. -/
def length : Json → Nat
  | .str s => s.toList.length
  | .arr items => items.length
  | _ => 0

/-- The property of every object in a list that has it, by its exact key. -/
def project (property : String) : Json → List Json
  | .arr items => items.filterMap fun item => item.asFields?.bind (Entries.get? property)
  | _ => []

end Json

namespace Expr

/-- The value at the end of a path. -/
def resolve (ctx : Context) : Root → List String → Json
  | .vars, [] => .obj ctx.vars.snapshot
  | .vars, name :: rest => ((ctx.vars.get? name).map (Json.follow · rest)).getD .null
  | .input, [] => .obj ctx.input
  | .input, name :: rest => ((Fields.lookup ctx.input name).map (Json.follow · rest)).getD .null

def evaluate (ctx : Context) : Expr → Json
  | path root segments => resolve ctx root segments
  | len inner => .num (.whole (.ofLength (evaluate ctx inner).length))
  | map source property => .arr ((evaluate ctx source).project property)
  | literal text => .str text

end Expr

end Dialogue
