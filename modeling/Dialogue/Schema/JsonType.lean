import Dialogue.Json.Basic

/-!
# Kinds of value

The kinds of value that a schema can ask for. A whole number is an integer however it is written,
unless the schema is strict.
-/
namespace Dialogue

/-- A kind of value. -/
inductive JsonType where
  | array
  | boolean
  | integer
  | null
  | number
  | object
  | string
  deriving Repr, DecidableEq

namespace JsonType

def name : JsonType → String
  | array => "array"
  | boolean => "boolean"
  | integer => "integer"
  | null => "null"
  | number => "number"
  | object => "object"
  | string => "string"

/-- All kinds, in the order of their names. -/
def all : List JsonType := [array, boolean, integer, null, number, object, string]

def ofName? (s : String) : Option JsonType := all.find? fun kind => kind.name == s

/-- The value is of that kind; a whole number is an integer however it is written. -/
def admits : JsonType → Json → Bool
  | array, .arr _ => true
  | boolean, .bool _ => true
  | integer, .num n => n.isWhole
  | null, .null => true
  | number, .num _ => true
  | object, .obj _ => true
  | string, .str _ => true
  | _, _ => false

/-- As `admits`, but an integer is a number that is written without a fraction. -/
def admitsStrictly : JsonType → Json → Bool
  | integer, .num (.float _) => false
  | kind, j => kind.admits j

end JsonType

end Dialogue
