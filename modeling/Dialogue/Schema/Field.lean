import Dialogue.Pattern.Parser
import Dialogue.Schema.Basic
import Dialogue.Schema.Scope

/-!
# The fields of a schema

A keyword is written as a field. The field holds schemas in some arrangement, or a plain value; what
it stands for can depend on the fields beside it. `Field.manner` says how a field is read, and
`Field.keywords?` what keywords it stands for once the schemas in the fields were read. It gives
nothing where a field holds what it must not hold.
-/
namespace Dialogue.Field

/-- How a field of a schema is read. -/
inductive Manner where
  /-- As no keyword. -/
  | ignored
  | plain
  | reference
  /-- As a reference to the document. -/
  | recursive
  | single
  | listed
  | named
  /-- Schemas under patterns. -/
  | shown
  /-- Schemas and lists of required properties under the names of properties. -/
  | dependencies
  deriving Repr, DecidableEq

/-- What a field was read as. -/
inductive Part where
  | ignored
  | plain (j : Json)
  | keywords (ks : List Keyword)
  | single (s : Schema)
  | listed (options : List Schema)
  | named (entries : List (String × Schema))
  | shown (entries : List (Pattern × Schema))

/-- The value is written as a schema. -/
def isSchema (j : Json) : Bool := j.isObject || j.isBool

/-- Other properties than those with schemas of their own are restricted. -/
def restrictsOthers (fields : Fields) : Bool :=
  match Entries.get? "additionalProperties" fields with
  | some j => j.isObject || j = .bool false
  | none => false

/-- The reference that in an early draft counts alone. -/
def loneReference? (s : Scope) (fields : Fields) : Option Json :=
  if s.draft.isEarly then Entries.get? "$ref" fields else none

/-- Keywords about what no other keyword evaluates. -/
def isRest (key : String) : Bool := key = "unevaluatedItems" || key = "unevaluatedProperties"

/-- A field is read as a test or as what depends on one. A test alone is read only for what it
evaluates. -/
def belongsToTest (s : Scope) (fields : Fields) (key : String) : Bool :=
  s.knows "if" && Entries.contains "if" fields &&
    (key = "then" || key = "else" ||
      (key = "if" && (fields.any fun (other, _) => other = "then" || other = "else" ||
        (isRest other && s.knows other))))

/-- How a field is read, among all fields of its schema. -/
def manner (s : Scope) (fields : Fields) (key : String) (j : Json) : Manner :=
  let singleIf (condition : Bool) : Manner := if condition then .single else .ignored
  if belongsToTest s fields key then .single
  else if !s.knows key then .ignored
  else
    match key with
    | "$ref" | "$dynamicRef" => .reference
    | "$recursiveRef" => .recursive
    | "allOf" | "anyOf" | "oneOf" | "prefixItems" => .listed
    | "dependentSchemas" | "properties" => .named
    | "dependencies" => .dependencies
    | "patternProperties" => .shown
    | "additionalProperties" | "contains" | "not" | "unevaluatedItems" | "unevaluatedProperties" =>
        .single
    | "items" => if j.isList then .listed else singleIf (isSchema j)
    | "additionalItems" =>
        singleIf ((Entries.get? "items" fields).any Json.isList && isSchema j)
    | "propertyNames" => singleIf (isSchema j)
    | "if" => .ignored
    | _ => .plain

/-- The largest count. -/
def maxCount : Nat := 18446744073709551615

/-- The count that a whole number in value stands for; one below zero counts as zero. -/
def roundCount? : Number → Option Nat
  | .whole n => some n.value.toNat
  | .float x =>
      if !x.isWhole then none
      else if x.negative then some 0
      else some (min maxCount (x.magnitude / pow2 1074))

/-- The count that a number is. -/
def strictCount? : Number → Option Nat
  | .whole n => if n.value < 0 then none else some n.value.toNat
  | .float _ => none

/-- The limit of a measure; the first draft asks for a count as such. -/
def limit? (d : Draft) : Json → Option Nat
  | .num n => if d = .draft4 then strictCount? n else roundCount? n
  | _ => none

/-- How many items a field asks for, if it is there. -/
def itemCount? (fields : Fields) (key : String) : Option (Option Nat) :=
  match Entries.get? key fields with
  | none => some none
  | some (.num (.whole n)) => (strictCount? (.whole n)).map some
  | some (.num n) => (roundCount? n).map some
  | some _ => none

/-- The kinds of value that a `type` keyword names, in order, and whether it lists them. -/
def kinds? : Json → Option (List JsonType × Bool)
  | .str name => (JsonType.ofName? name).map ([·], false)
  | .arr [.str name] => (JsonType.ofName? name).map ([·], false)
  | .arr names => do
      let kinds ← names.mapM fun k => k.asString?.bind JsonType.ofName?
      return (JsonType.all.filter (· ∈ kinds), true)
  | _ => none

/-- The properties that a list of names requires. -/
def required? : Json → Option (List String)
  | .arr names => names.mapM Json.asString?
  | _ => none

/-- The properties that each of some properties requires. -/
def dependentRequired? : Json → Option (List (String × Schema))
  | .obj fields => fields.mapM fun (key, j) => do
      let names ← required? j
      if names.Nodup then return (key, .all [.required names]) else none
  | _ => none

/-- A limit of numbers. In the first draft a flag beside it makes it exclusive. -/
def bound (d : Draft) (fields : Fields) (flag : String) (inclusive exclusive : Bound)
    (n : Number) : Keyword :=
  if d = .draft4 && Entries.get? flag fields = some (.bool true) then .bound exclusive n
  else .bound inclusive n

/-- The name of an encoding of bytes that texts are checked for. -/
def knownEncoding : String := "base64"

/-- The name of a kind of text that texts are checked for. -/
def knownMedia : String := "application/json"

/-- What the kind of a text stands for, together with the encoding beside it. -/
def mediaKeywords? (fields : Fields) (media : String) : Option (List Keyword) :=
  if media = knownMedia then
    match Entries.get? "contentEncoding" fields with
    | none => some [.jsonText false]
    | some (.str encoding) => some (if encoding = knownEncoding then [.jsonText true] else [])
    | some _ => none
  else some []

/-- What an encoding stands for; beside a kind of text it stands for nothing of its own. -/
def encodingKeywords? (fields : Fields) (j : Json) : Option (List Keyword) :=
  if Entries.contains "contentMediaType" fields then some []
  else j.asString?.map fun encoding => if encoding = knownEncoding then [.encoded] else []

/-- The keywords of a field with a plain value. -/
def plainKeywords? (d : Draft) (fields : Fields) (key : String) (j : Json) :
    Option (List Keyword) :=
  match key, j with
  | "const", j => some [.const j]
  | "contentEncoding", j => encodingKeywords? fields j
  | "contentMediaType", .str media => mediaKeywords? fields media
  | "dependentRequired", j => (dependentRequired? j).map ([.dependent ·])
  | "enum", .arr values => some [.among values]
  | "exclusiveMaximum", .num n => some [.bound .exclusiveMaximum n]
  | "exclusiveMinimum", .num n => some [.bound .exclusiveMinimum n]
  | "format", .str name => some ((TextFormat.ofName? d name).toList.map .format)
  | "maxItems", j => (limit? d j).map ([.atMost .items ·])
  | "maxLength", j => (limit? d j).map ([.atMost .characters ·])
  | "maxProperties", j => (limit? d j).map ([.atMost .properties ·])
  | "maximum", .num n => some [bound d fields "exclusiveMaximum" .maximum .exclusiveMaximum n]
  | "minItems", j => (limit? d j).map ([.atLeast .items ·])
  | "minLength", j => (limit? d j).map ([.atLeast .characters ·])
  | "minProperties", j => (limit? d j).map ([.atLeast .properties ·])
  | "minimum", .num n => some [bound d fields "exclusiveMinimum" .minimum .exclusiveMinimum n]
  | "multipleOf", .num n => some [.multipleOf n.toBinary64]
  | "pattern", .str s => (Pattern.ofText? s).map ([.pattern · s])
  | "required", j => (required? j).map ([.required ·])
  | "type", j => (kinds? j).map fun (kinds, listed) =>
      if d = .draft4 then [.strictType kinds listed] else [.type kinds listed]
  | "uniqueItems", .bool b => some (if b then [.unique] else [])
  | _, _ => none

/-- The schemas of single properties. -/
def ownProperties (parts : List (String × Part)) : Option (List (String × Schema)) :=
  match parts.lookup "properties" with
  | some (.named own) => some own
  | _ => none

/-- The schemas of properties whose names show a pattern. -/
def shownProperties (parts : List (String × Part)) : Option (List (Pattern × Schema)) :=
  match parts.lookup "patternProperties" with
  | some (.shown shown) => some shown
  | _ => none

/-- The schema in a field, if the field was read as one. -/
def schemaIn (parts : List (String × Part)) (key : String) : Schema :=
  match parts.lookup key with
  | some (.single s) => s
  | _ => .anything

/-- What a schema asks of other properties. Unless it allows all of them it takes the schemas of
properties along. -/
def othersKeyword (parts : List (String × Part)) : Schema → Keyword
  | .anything => .properties [] [] (some .anything)
  | .nothing =>
      match ownProperties parts, shownProperties parts with
      | none, none => .bare
      | own, shown => .closed (own.getD []) (shown.getD [])
  | s => .properties ((ownProperties parts).getD []) ((shownProperties parts).getD []) (some s)

/-- What a schema asks of the names of properties. -/
def namesKeyword : Schema → List Keyword
  | .anything => []
  | .nothing => [.nameless]
  | s => [.names s]

/-- What a schema asks of the items after those with a schema each. -/
def moreItemsKeyword (listed : Nat) : Schema → Keyword
  | .nothing => .noMore listed
  | s => .items listed s

/-- How many schemas a field lists. -/
def listedIn (fields : Fields) (key : String) : Nat :=
  match Entries.get? key fields with
  | some (.arr items) => items.length
  | _ => 0

/-- The keyword about items that satisfy a schema; only the later drafts let them be counted. -/
def containsKeyword? (d : Draft) (fields : Fields) (s : Schema) : Option Keyword := do
  if d.isEarly then return .contains s 1 none
  else
    let least ← itemCount? fields "minContains"
    let most ← itemCount? fields "maxContains"
    return .contains s (least.getD 1) most

/-- The keywords that a field stands for, among all fields of its schema and their parts; `beside`
are the keywords that evaluate properties and items. -/
def keywords? (d : Draft) (fields : Fields) (parts : List (String × Part))
    (beside : List Keyword) (key : String) : Part → Option (List Keyword)
  | .ignored => some []
  | .plain j => plainKeywords? d fields key j
  | .keywords ks => some ks
  | .single s =>
      match key with
      | "additionalItems" => some [moreItemsKeyword (listedIn fields "items") s]
      | "additionalProperties" => some [othersKeyword parts s]
      | "contains" => (containsKeyword? d fields s).map ([·])
      | "if" => some [.conditional s (schemaIn parts "then") (schemaIn parts "else")]
      | "items" => some [.items (listedIn fields "prefixItems") s]
      | "not" => (Entries.get? key fields).map ([.not s ·])
      | "propertyNames" => some (namesKeyword s)
      | "unevaluatedItems" => some [.unevaluatedItems beside s]
      | "unevaluatedProperties" => some [.unevaluatedProperties beside s]
      | _ => some []
  | .listed options =>
      match key with
      | "allOf" => some [.all options]
      | "anyOf" => some [.some options]
      | "oneOf" => some [.oneOf options]
      | _ => some [.tuple options]
  | .named entries =>
      match key with
      | "properties" =>
          some (if restrictsOthers fields then [] else [.properties entries [] none])
      | _ => some [.dependent entries]
  | .shown entries => some (if restrictsOthers fields then [] else [.shown entries])

/-- The schema whose fields were read as `parts`. -/
def schema? (d : Draft) (fields : Fields) (parts : List (String × Part)) : Option Schema := do
  let others := parts.filter fun (key, _) => !isRest key
  let beside ← others.mapM fun (key, part) => keywords? d fields parts [] key part
  let keywords ← parts.mapM fun (key, part) =>
    keywords? d fields parts beside.flatten key part
  return .all keywords.flatten

end Dialogue.Field
