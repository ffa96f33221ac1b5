import Dialogue.Expression.Parser
import Dialogue.Json.Printer

/-!
# Conditions

A condition is one expression, which holds when its value is truthy, or two operands around a
relational operator. The operator is the first one outside quotes and parentheses. An operand in
quotes is the text between them; any other operand is an expression or a literal.

Two values that both read as numbers are compared as binary64 numbers, all others by their texts. A
value that reads as no number at all, such as `nan`, differs from every number and is in no other
relation to one.
-/
namespace Dialogue

inductive RelOp where
  | eq
  | ne
  | lt
  | le
  | gt
  | ge
  deriving Repr, DecidableEq

namespace RelOp

def symbol : RelOp → String
  | eq => "=="
  | ne => "!="
  | lt => "<"
  | le => "<="
  | gt => ">"
  | ge => ">="

/-- The operator holds of two values in this order. -/
def holds : RelOp → Ordering → Bool
  | eq, o => o == .eq
  | ne, o => o != .eq
  | lt, o => o == .lt
  | le, o => o != .gt
  | gt, o => o == .gt
  | ge, o => o != .lt

/-- The operator that a text begins with, the longer one where two fit, and the text after it. -/
def read? : List Char → Option (RelOp × List Char)
  | '=' :: '=' :: rest => some (eq, rest)
  | '!' :: '=' :: rest => some (ne, rest)
  | '<' :: '=' :: rest => some (le, rest)
  | '<' :: rest => some (lt, rest)
  | '>' :: '=' :: rest => some (ge, rest)
  | '>' :: rest => some (gt, rest)
  | _ => none

end RelOp

inductive Condition where
  | compare (left : Expr) (op : RelOp) (right : Expr)
  | truthy (e : Expr)
  deriving Repr, DecidableEq

namespace Condition

/-- The text around the first operator outside quotes and parentheses. So far `depth` parentheses
are open, and perhaps a quote; a closing parenthesis too many is passed over. -/
def split? (depth : Nat) (quote : Option Char) :
    List Char → Option (List Char × RelOp × List Char)
  | [] => none
  | c :: cs =>
      let onward (depth : Nat) (quote : Option Char) :=
        (split? depth quote cs).map fun (before, op, after) => (c :: before, op, after)
      match quote with
      | some q => onward depth (if c = q then none else some q)
      | none =>
          if c = '\'' ∨ c = '"' then onward depth (some c)
          else if c = '(' then onward (depth + 1) none
          else if c = ')' then onward (depth - 1) none
          else if depth = 0 then
            match RelOp.read? (c :: cs) with
            | some (op, after) => some ([], op, after)
            | none => onward depth none
          else onward depth none

/-- The text between two quotes that enclose it. -/
def unquote? : List Char → Option (List Char)
  | [] => none
  | q :: rest =>
      if (q = '\'' ∨ q = '"') ∧ rest.getLast? = some q then some rest.dropLast else none

/-- An operand, without the blanks around it. -/
def operand (cs : List Char) : Expr :=
  let cs := Text.trim cs
  match unquote? cs with
  | some inner => .literal (String.ofList inner)
  | none => .ofText (String.ofList cs)

def ofText (source : String) : Condition :=
  match split? 0 none source.toList with
  | some (left, op, right) => compare (operand left) op (operand right)
  | none => truthy (.ofText (Text.trimmed source))

end Condition

namespace Json

/-- The number that a value reads as. -/
def reading? : Json → Option Reading
  | .num n => some n.reading
  | .str s =>
      let cs := Text.trim s.toList
      if cs.isEmpty then none else Reading.ofText? cs
  | _ => none

/-- Null, false and blank strings are not truthy; everything else is. -/
def isTruthy : Json → Bool
  | .null => false
  | .bool b => b
  | .str s => !Text.showsNothing s
  | _ => true

/-- The order of two values; there is none when both read as numbers but one is not a number. -/
def order? (left right : Json) : Option Ordering :=
  match left.reading?, right.reading? with
  | some l, some r => Reading.compare? l r
  | _, _ => some (compare left.shown right.shown)

end Json

namespace Condition

def evaluate (ctx : Context) : Condition → Bool
  | truthy e => (e.evaluate ctx).isTruthy
  | compare left op right =>
      match Json.order? (left.evaluate ctx) (right.evaluate ctx) with
      | some o => op.holds o
      | none => op == .ne

end Condition

/-- Whether a condition given as text holds. -/
def Context.holds (ctx : Context) (source : String) : Bool := (Condition.ofText source).evaluate ctx

end Dialogue
