import Dialogue.Schema.Draft

/-!
# Well-formed schemas

What a schema of the latest draft must look like: every keyword of it holds a value of the form that
is laid down here, and so do all schemas inside it. A field that is no keyword may hold anything,
and so may the fields inside it.

Being well-formed is asked of a whole document, whatever is used of it later. Whether a pattern can
be read and whether a reference leads anywhere is no part of it.
-/
namespace Dialogue.Metaschema

/-- What the field of a keyword must hold. -/
inductive Form where
  | schema
  /-- At least one schema. -/
  | schemas
  | namedSchemas
  /-- Schemas or lists of distinct texts. -/
  | dependencies
  | text
  /-- A text with a number sign at its end at most. -/
  | id
  /-- A text that can name a place in a document. -/
  | anchor
  | flag
  | namedFlags
  | number
  | positiveNumber
  /-- A whole number that is not negative. -/
  | count
  | list
  /-- Distinct texts. -/
  | texts
  | namedTexts
  /-- The name of a kind of value, or distinct names of kinds. -/
  | kinds
  deriving Repr, DecidableEq

def keysOf : Form → List String
  | .schema =>
      ["additionalProperties", "contains", "contentSchema", "else", "if", "items", "not",
        "propertyNames", "then", "unevaluatedItems", "unevaluatedProperties"]
  | .schemas => ["allOf", "anyOf", "oneOf", "prefixItems"]
  | .namedSchemas => ["$defs", "definitions", "dependentSchemas", "patternProperties", "properties"]
  | .dependencies => ["dependencies"]
  | .text =>
      ["$comment", "$dynamicRef", "$recursiveRef", "$ref", "$schema", "contentEncoding",
        "contentMediaType", "description", "format", "pattern", "title"]
  | .id => ["$id"]
  | .anchor => ["$anchor", "$dynamicAnchor", "$recursiveAnchor"]
  | .flag => ["deprecated", "readOnly", "uniqueItems", "writeOnly"]
  | .namedFlags => ["$vocabulary"]
  | .number => ["exclusiveMaximum", "exclusiveMinimum", "maximum", "minimum"]
  | .positiveNumber => ["multipleOf"]
  | .count =>
      ["maxContains", "maxItems", "maxLength", "maxProperties", "minContains", "minItems",
        "minLength", "minProperties"]
  | .list => ["enum", "examples"]
  | .texts => ["required"]
  | .namedTexts => ["dependentRequired"]
  | .kinds => ["type"]

def forms : List Form :=
  [.schema, .schemas, .namedSchemas, .dependencies, .text, .id, .anchor, .flag, .namedFlags,
    .number, .positiveNumber, .count, .list, .texts, .namedTexts, .kinds]

/-- The form of the field of a keyword. -/
def formOf? (key : String) : Option Form := forms.find? fun form => (keysOf form).contains key

/-- The sign of a number. -/
def isNegative : Number → Bool
  | .whole n => n.value < 0
  | .float x => x.negative && x.mantissa != 0

def isZero : Number → Bool
  | .whole n => n.value = 0
  | .float x => x.mantissa = 0

/-- Distinct texts, all of which pass. -/
def isTextList (accepts : String → Bool) : Json → Bool
  | .arr items =>
      items.all (fun j => j.asString?.any accepts) && (items.filterMap Json.asString?).Nodup
  | _ => false

def isAnchor (s : String) : Bool :=
  match s.toList with
  | [] => false
  | c :: cs =>
      (c.isAlpha || c = '_') && cs.all fun d => d.isAlphanum || ['-', '.', '_'].contains d

/-- No number sign but one at the end. -/
def isId (s : String) : Bool :=
  match s.toList.dropWhile (· ≠ '#') with
  | [] => true
  | _ :: rest => rest.isEmpty

def kindNames : List String :=
  ["array", "boolean", "integer", "null", "number", "object", "string"]

def isKinds : Json → Bool
  | .str name => kindNames.contains name
  | .arr [] => false
  | j => isTextList kindNames.contains j

/-- A value has a form that no schemas are part of. -/
def hasForm : Form → Json → Bool
  | .text, j => j.isString
  | .id, .str s => isId s
  | .anchor, .str s => isAnchor s
  | .flag, j => j.isBool
  | .namedFlags, .obj fields => fields.all fun f => f.2.isBool
  | .number, .num _ => true
  | .positiveNumber, .num n => !isNegative n && !isZero n
  | .count, .num n => n.isWhole && !isNegative n
  | .list, .arr _ => true
  | .texts, j => isTextList (fun _ => true) j
  | .namedTexts, .obj fields => fields.all fun f => isTextList (fun _ => true) f.2
  | .kinds, j => isKinds j
  | _, _ => false

mutual

/-- A value is a well-formed schema. -/
def accepts : Json → Bool
  | .bool _ => true
  | .obj fields => acceptsFields fields
  | _ => false
termination_by structural j => j

/-- A value is a list of well-formed schemas, one at least. -/
def acceptsList : Json → Bool
  | .arr (j :: rest) => accepts j && acceptsItems rest
  | _ => false
termination_by structural j => j

/-- A value is an object of well-formed schemas. -/
def acceptsNamed : Json → Bool
  | .obj fields => acceptsValues fields
  | _ => false
termination_by structural j => j

/-- A value is an object of well-formed schemas and lists of distinct texts. -/
def acceptsDependencies : Json → Bool
  | .obj fields => acceptsMixed fields
  | _ => false
termination_by structural j => j

def acceptsItems : List Json → Bool
  | [] => true
  | j :: rest => accepts j && acceptsItems rest
termination_by structural items => items

def acceptsValues : List (String × Json) → Bool
  | [] => true
  | (_, j) :: rest => accepts j && acceptsValues rest
termination_by structural fields => fields

def acceptsMixed : List (String × Json) → Bool
  | [] => true
  | (_, j) :: rest => (isTextList (fun _ => true) j || accepts j) && acceptsMixed rest
termination_by structural fields => fields

/-- Every field of a keyword has its form. -/
def acceptsFields : List (String × Json) → Bool
  | [] => true
  | (key, j) :: rest =>
      (match formOf? key with
        | none => true
        | some .schema => accepts j
        | some .schemas => acceptsList j
        | some .namedSchemas => acceptsNamed j
        | some .dependencies => acceptsDependencies j
        | some form => hasForm form j) &&
      acceptsFields rest
termination_by structural fields => fields

end

end Dialogue.Metaschema
