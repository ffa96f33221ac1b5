import Dialogue.Pattern.Basic
import Dialogue.Schema.Format
import Dialogue.Schema.JsonType
import Dialogue.Schema.Limit

/-!
# Schemas

A schema says which values are allowed: all, none, or those that satisfy every keyword in a list.
The order of the keywords is the order in which their complaints are reported. A keyword may refer
to a target, which is a schema kept elsewhere under a name.
-/
namespace Dialogue

mutual

inductive Schema where
  | anything
  | nothing
  | all (keywords : List Keyword)

inductive Keyword where
  /-- What the target of that name asks for. -/
  | reference (target : String)
  /-- What a reference leads to, read in its place. -/
  | embedded (s : Schema)
  /-- All of these schemas. -/
  | all (parts : List Schema)
  /-- At least one of these schemas. -/
  | some (options : List Schema)
  /-- Exactly one of these schemas. -/
  | oneOf (options : List Schema)
  /-- Not this schema, which was written so. -/
  | not (s : Schema) (written : Json)
  /-- One of two schemas, as the value satisfies the test or not. -/
  | conditional (test onTrue onFalse : Schema)
  /-- What each property has to satisfy: those with a schema of their own, those whose names show a
  pattern, and the others if something is said of them. -/
  | properties (own : List (String × Schema)) (shown : List (Pattern × Schema))
    (others : Option Schema)
  /-- As `properties`, but without any others. -/
  | closed (own : List (String × Schema)) (shown : List (Pattern × Schema))
  /-- What the properties whose names show a pattern have to satisfy. -/
  | shown (schemas : List (Pattern × Schema))
  /-- No properties at all. -/
  | bare
  /-- What the name of each property has to satisfy. -/
  | names (s : Schema)
  /-- No properties, because no name is allowed. -/
  | nameless
  /-- Properties that an object must have. -/
  | required (keys : List String)
  /-- What an object has to satisfy when it has a property. -/
  | dependent (schemas : List (String × Schema))
  /-- What each item of a list has to satisfy, some at the front apart. -/
  | items (skipped : Nat) (item : Schema)
  /-- What the items at the front of a list have to satisfy, one by one. -/
  | tuple (schemas : List Schema)
  /-- No items beyond so many. -/
  | noMore (limit : Nat)
  /-- At least, and perhaps at most, so many items that satisfy a schema. -/
  | contains (item : Schema) (least : Nat) (most : Option Nat)
  /-- What each property has to satisfy that none of the keywords beside this one evaluates. -/
  | unevaluatedProperties (beside : List Keyword) (others : Schema)
  /-- What each item has to satisfy that none of the keywords beside this one evaluates. -/
  | unevaluatedItems (beside : List Keyword) (others : Schema)
  /-- No two items that agree. -/
  | unique
  /-- This very value. -/
  | const (value : Json)
  /-- One of these values. -/
  | among (values : List Json)
  /-- A value of one of these kinds, which stand in the order of their names. They were written as a
  list or not. -/
  | type (kinds : List JsonType) (listed : Bool)
  /-- As `type`, but an integer is a number that is written without a fraction. -/
  | strictType (kinds : List JsonType) (listed : Bool)
  | bound (b : Bound) (limit : Number)
  /-- At most so much of something. -/
  | atMost (m : Measure) (limit : Nat)
  /-- At least so much of something. -/
  | atLeast (m : Measure) (limit : Nat)
  | multipleOf (divisor : Binary64)
  /-- A text that shows a pattern, which was written so. -/
  | pattern (p : Pattern) (written : String)
  /-- A text of a format. -/
  | format (f : TextFormat)
  /-- A text that writes bytes in sixty-four characters. -/
  | encoded
  /-- A text that writes a value, or one that writes the bytes of such a text. -/
  | jsonText (encoded : Bool)

end

deriving instance Inhabited for Schema

end Dialogue
