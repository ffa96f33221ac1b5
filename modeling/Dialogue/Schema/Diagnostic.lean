import Dialogue.Json.Printer
import Dialogue.Number.Plain
import Dialogue.Schema.Basic
import Dialogue.Text.Utf8

/-!
# Diagnostics

What a schema says of a value that it does not allow: where the value stands, the value itself, and
the complaint. The place is a list of keys and indices from the outermost value inwards.
-/
namespace Dialogue

/-- What is wrong with a value. -/
inductive Complaint where
  /-- None of the kinds, which were written as a list or not. -/
  | wrongType (kinds : List JsonType) (listed : Bool)
  | notAmong (values : List Json)
  | notConst (value : Json)
  | missing (key : String)
  /-- No option of `anyOf`. -/
  | nowhere
  /-- No option of `oneOf`. -/
  | noOption
  | manyOptions
  /-- Just as the schema that was written so says it must not be. -/
  | forbidden (schema : Json)
  | refused
  | unexpected (keys : List String)
  | unexpectedItems (items : List Json)
  | unevaluated (keys : List String)
  | unevaluatedItems (items : List Json)
  /-- Too few items, or too many, that satisfy a schema. -/
  | notContained
  | repetition
  | outOfBound (b : Bound) (limit : Number)
  | tooMany (m : Measure) (limit : Nat)
  | tooFew (m : Measure) (limit : Nat)
  | notMultiple (divisor : Binary64)
  | unlike (pattern : String)
  | notOfFormat (f : TextFormat)
  | notEncoded
  | notJsonText
  /-- The bytes that a text writes are themselves no text. -/
  | bytesAtFault (fault : Text.Utf8Fault)

namespace Complaint

def quotedName (kind : JsonType) : String := "\"" ++ kind.name ++ "\""

/-- So many of what is counted. -/
def counted (n : Nat) : Measure → String
  | .characters => toString n ++ if n = 1 then " character" else " characters"
  | .items => toString n ++ if n = 1 then " item" else " items"
  | .properties => toString n ++ if n = 1 then " property" else " properties"

/-- The kinds that were asked for. -/
def kindsText : List JsonType → (listed : Bool) → String
  | [kind], false => "type " ++ quotedName kind
  | kinds, _ => "types " ++ ", ".intercalate (kinds.map quotedName)

/-- How a number missed its bound. -/
def boundText : Bound → String
  | .maximum => " is greater than the maximum of "
  | .minimum => " is less than the minimum of "
  | .exclusiveMaximum => " is greater than or equal to the maximum of "
  | .exclusiveMinimum => " is less than or equal to the minimum of "

/-- What was unexpected, and whether it is one thing or more. -/
def unexpectedText (what : String) (names : List String) : String :=
  what ++ " are not allowed (" ++ ", ".intercalate names ++
    if names.length = 1 then " was unexpected)" else " were unexpected)"

def inQuotes (s : String) : String := "'" ++ s ++ "'"

/-- The complaint about a value as a sentence. -/
def message (j : Json) : Complaint → String
  | wrongType kinds listed => j.compact ++ " is not of " ++ kindsText kinds listed
  | notAmong values => j.compact ++ " is not one of " ++ (Json.arr values).compact
  | notConst value => value.compact ++ " was expected"
  | missing key => (Json.str key).compact ++ " is a required property"
  | nowhere =>
      j.compact ++ " is not valid under any of the schemas listed in the 'anyOf' keyword"
  | noOption =>
      j.compact ++ " is not valid under any of the schemas listed in the 'oneOf' keyword"
  | manyOptions =>
      j.compact ++ " is valid under more than one of the schemas listed in the 'oneOf' keyword"
  | forbidden schema => schema.compact ++ " is not allowed for " ++ j.compact
  | refused => "False schema does not allow " ++ j.compact
  | unexpected keys => unexpectedText "Additional properties" (keys.map inQuotes)
  | unexpectedItems items => unexpectedText "Additional items" (items.map Json.compact)
  | unevaluated keys => unexpectedText "Unevaluated properties" (keys.map inQuotes)
  | unevaluatedItems items =>
      unexpectedText "Unevaluated items" (items.map fun item => inQuotes item.compact)
  | notContained => "None of " ++ j.compact ++ " are valid under the given schema"
  | repetition => j.compact ++ " has non-unique elements"
  | outOfBound b limit => j.compact ++ boundText b ++ (Json.num limit).compact
  | tooMany .characters limit => j.compact ++ " is longer than " ++ counted limit .characters
  | tooMany m limit => j.compact ++ " has more than " ++ counted limit m
  | tooFew .characters limit => j.compact ++ " is shorter than " ++ counted limit .characters
  | tooFew m limit => j.compact ++ " has less than " ++ counted limit m
  | notMultiple divisor => j.compact ++ " is not a multiple of " ++ divisor.plainText
  | unlike pattern => j.compact ++ " does not match \"" ++ pattern ++ "\""
  | notOfFormat f => j.compact ++ " is not a \"" ++ f.name ++ "\""
  | notEncoded => j.compact ++ " is not compliant with \"base64\" content encoding"
  | notJsonText => j.compact ++ " is not compliant with \"application/json\" media type"
  | bytesAtFault fault => fault.message

/-- The complaint is about something that has no place in the outermost value. -/
def isPlaceless : Complaint → Bool
  | bytesAtFault _ => true
  | _ => false

end Complaint

structure Diagnostic where
  place : List String := []
  value : Json
  complaint : Complaint

namespace Diagnostic

/-- The same diagnostic seen from the value that holds this one under a key. -/
def under (key : String) (d : Diagnostic) : Diagnostic :=
  if d.complaint.isPlaceless then d else { d with place := key :: d.place }

/-- A key within a pointer: the slash separates and the tilde escapes. -/
def escapedKey (key : String) : List Char :=
  key.toList.flatMap fun c => if c = '~' then ['~', '0'] else if c = '/' then ['~', '1'] else [c]

/-- The pointer to a place: a slash before each key. -/
def pointer (place : List String) : String :=
  String.ofList (place.flatMap fun key => '/' :: escapedKey key)

/-- The diagnostic in one line; at the outermost value it has no pointer. -/
def line (d : Diagnostic) : String :=
  let message := d.complaint.message d.value
  if d.place.isEmpty then message else pointer d.place ++ ": " ++ message

end Diagnostic

end Dialogue
