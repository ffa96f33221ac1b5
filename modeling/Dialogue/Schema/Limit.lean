import Dialogue.Json.Basic

/-!
# Limits

A schema can hold a number against a limit, and the count of what a value consists of against two.
-/
namespace Dialogue

/-- How a number is held against a limit. -/
inductive Bound where
  | maximum
  | minimum
  | exclusiveMaximum
  | exclusiveMinimum
  deriving Repr, DecidableEq

/-- A number keeps within a limit. -/
def Bound.allows (b : Bound) (limit n : Number) : Bool :=
  match b with
  | maximum => n.steps ≤ limit.steps
  | minimum => limit.steps ≤ n.steps
  | exclusiveMaximum => n.steps < limit.steps
  | exclusiveMinimum => limit.steps < n.steps

/-- What is counted of a value. -/
inductive Measure where
  | characters
  | items
  | properties
  deriving Repr, DecidableEq

/-- The count of a value, if there is anything of the kind to count. -/
def Measure.count? : Measure → Json → Option Nat
  | .characters, .str s => some s.length
  | .items, .arr members => some members.length
  | .properties, .obj fields => some fields.length
  | _, _ => none

end Dialogue
