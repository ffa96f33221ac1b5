import Dialogue.Json.Basic

/-!
# Drafts of the schema language

A schema may name the draft that it is written in. The draft settles which fields hold schemas,
under which names a schema can be referred to, and which keywords there are. The keywords of the
later drafts come in vocabularies, any of which a document may leave out.
-/
namespace Dialogue

/-- The drafts, the first one first. -/
inductive Draft where
  | draft4
  | draft6
  | draft7
  | draft2019
  | draft2020
  deriving Repr, DecidableEq

namespace Draft

/-- The order of the drafts. -/
def rank : Draft → Nat
  | draft4 => 0
  | draft6 => 1
  | draft7 => 2
  | draft2019 => 3
  | draft2020 => 4

/-- The reference to a schema of the drafts. -/
def address (scheme path : String) : String := scheme ++ "://json-schema.org" ++ path

def names : List (String × Draft) :=
  [(address "https" "/draft/2020-12/schema", draft2020),
    (address "https" "/draft/2019-09/schema", draft2019),
    (address "http" "/draft-07/schema", draft7),
    (address "http" "/draft-06/schema", draft6),
    (address "http" "/draft-04/schema", draft4)]

/-- A text without the number signs at its end. -/
def withoutSigns (s : String) : String :=
  String.ofList (s.toList.reverse.dropWhile (· = '#')).reverse

/-- The text of a field, if the value is an object with a text there. -/
def text? (key : String) (j : Json) : Option String := do
  (← Entries.get? key (← j.asFields?)).asString?

/-- The draft of a schema inside one of draft `around`; there is none where its name is unknown. -/
def of? (around : Draft) (j : Json) : Option Draft :=
  match text? "$schema" j with
  | none => some around
  | some name => names.lookup (withoutSigns name)

/-- Keywords are not in vocabularies, and a reference stands alone. -/
def isEarly : Draft → Bool
  | draft4 | draft6 | draft7 => true
  | draft2019 | draft2020 => false

end Draft

/-- The vocabularies of keywords, those apart that every document has. -/
structure Vocabularies where
  applicator : Bool
  unevaluated : Bool
  validation : Bool
  deriving Repr, DecidableEq

namespace Draft

def vocabularies : Draft → Vocabularies
  | draft4 | draft6 | draft7 => ⟨false, false, false⟩
  | draft2019 => ⟨true, false, true⟩
  | draft2020 => ⟨true, true, true⟩

/-- The vocabularies of a schema of draft `around`, which a known name of a draft in it decides. -/
def vocabulariesOf (around : Draft) (j : Json) : Vocabularies :=
  ((around.of? j).getD around).vocabularies

/-- How schemas are arranged in a field. -/
inductive Arrangement where
  | absent
  | single
  /-- One schema if it is an object. -/
  | singleObject
  | listed
  | named
  /-- Those values that are objects. -/
  | namedObjects
  | singleOrListed
  deriving Repr, DecidableEq

/-- Fields that always hold one schema. -/
def singleKeys : Draft → List String
  | draft4 => ["not"]
  | draft6 => ["additionalItems", "additionalProperties", "contains", "not", "propertyNames"]
  | draft7 =>
      ["additionalItems", "additionalProperties", "contains", "else", "if", "not", "propertyNames",
        "then"]
  | draft2019 =>
      ["additionalItems", "additionalProperties", "contains", "contentSchema", "else", "if", "not",
        "propertyNames", "then", "unevaluatedItems", "unevaluatedProperties"]
  | draft2020 =>
      ["additionalProperties", "contains", "contentSchema", "else", "if", "items", "not",
        "propertyNames", "then", "unevaluatedItems", "unevaluatedProperties"]

/-- Fields that hold a list of schemas. -/
def listedKeys : Draft → List String
  | draft2020 => ["allOf", "anyOf", "oneOf", "prefixItems"]
  | _ => ["allOf", "anyOf", "oneOf"]

/-- Fields that hold schemas under names. -/
def namedKeys (d : Draft) : List String :=
  if d.isEarly then ["definitions", "patternProperties", "properties"]
  else ["$defs", "definitions", "dependentSchemas", "patternProperties", "properties"]

def arrangement (d : Draft) (key : String) : Arrangement :=
  if key ∈ d.singleKeys then .single
  else if key ∈ d.listedKeys then .listed
  else if key ∈ d.namedKeys then .named
  else if key = "items" then .singleOrListed
  else if key = "dependencies" ∧ d.isEarly then .namedObjects
  else if d = .draft4 ∧ key ∈ ["additionalItems", "additionalProperties"] then .singleObject
  else .absent

def listItems : Json → List Json
  | .arr items => items
  | _ => []

def fieldValues : Json → List Json
  | .obj fields => fields.map (·.2)
  | _ => []

/-- The schemas in a field. -/
def schemasIn (d : Draft) (key : String) (j : Json) : List Json :=
  match d.arrangement key with
  | .absent => []
  | .single => [j]
  | .singleObject => [j].filter Json.isObject
  | .listed => listItems j
  | .named => fieldValues j
  | .namedObjects => (fieldValues j).filter Json.isObject
  | .singleOrListed =>
      match j with
      | .arr items => items
      | j => [j]

/-- The schemas directly inside a schema. -/
def subschemas (d : Draft) : Json → List Json
  | .obj fields => fields.flatMap fun (key, j) => d.schemasIn key j
  | _ => []

/-- A name by which a schema can be referred to within its document. A flexible one can be taken
over by a document around it. -/
structure Anchor where
  name : String
  flexible : Bool
  deriving Repr, DecidableEq

/-- The reference that a schema is known by, as written. -/
def id? (d : Draft) (j : Json) : Option String :=
  let id :=
    if d.isEarly then
      let id? := text? (if d = .draft4 then "id" else "$id") j
      if ((j.asFields?).bind (Entries.get? "$ref")).isSome then none
      else id?.filter fun id => id.toList.head? != some '#'
    else text? "$id" j
  id.map withoutSigns

def anchors (d : Draft) (j : Json) : List Anchor :=
  let anchor (key : String) (flexible : Bool) : List Anchor :=
    (text? key j).toList.map fun name => ⟨name, flexible⟩
  match d with
  | .draft2020 => anchor "$anchor" false ++ anchor "$dynamicAnchor" true
  | .draft2019 => anchor "$anchor" false
  | _ =>
      (text? (if d = .draft4 then "id" else "$id") j).toList.filterMap fun id =>
        match id.toList with
        | '#' :: name => some ⟨String.ofList name, false⟩
        | _ => none

end Draft

end Dialogue
