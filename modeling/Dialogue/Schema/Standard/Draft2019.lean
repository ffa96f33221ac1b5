import Dialogue.Schema.Standard.Basic

/-!
# The schemas of the fourth draft

The draft has a schema for the keywords of each vocabulary, and one for all of them. A schema inside
a schema is described by the outermost of these.
-/
namespace Dialogue.Standard.Draft2019

/-- The reference to a schema of the draft. -/
def located (path : String) : Json := .str (Draft.address "https" ("/draft/2019-09/" ++ path))

/-- A schema inside a schema. -/
def schema : Json := .obj [("$recursiveRef", .str "#")]

/-- What a schema looks like. -/
def whole : Json :=
  .obj
    [("$id", located "schema"), ("$recursiveAnchor", .bool true), ("$schema", located "schema"),
     ("allOf", .arr
        [ref "meta/core", ref "meta/applicator", ref "meta/validation", ref "meta/meta-data",
         ref "meta/format", ref "meta/content"]),
     ("properties", .obj
        [("definitions", named schema),
         ("dependencies", named (anyOf [schema, ref "meta/validation#/$defs/stringArray"]))]),
     ("type", texts ["object", "boolean"])]

/-- The keywords that every document has. -/
def core : Json :=
  .obj
    [("$id", located "meta/core"), ("$recursiveAnchor", .bool true), ("$schema", located "schema"),
     ("properties", .obj
        [("$anchor",
           .obj [("pattern", .str "^[A-Za-z][-A-Za-z0-9.:_]*$"), ("type", .str "string")]),
         ("$comment", ofType "string"), ("$defs", named schema),
         ("$id", .obj [("pattern", .str "^[^#]*#?$"), ("type", .str "string")]),
         ("$recursiveAnchor", ofType "boolean"), ("$recursiveRef", ofType "string"),
         ("$ref", ofType "string"), ("$schema", ofType "string"),
         ("$vocabulary", .obj
            [("additionalProperties", ofType "boolean"), ("propertyNames", ofType "string"),
             ("type", .str "object")])]),
     ("type", texts ["object", "boolean"])]

/-- The keywords that apply schemas. -/
def applicator : Json :=
  .obj
    [("$defs", .obj
        [("schemaArray",
           .obj [("items", schema), ("minItems", count 1), ("type", .str "array")])]),
     ("$id", located "meta/applicator"), ("$recursiveAnchor", .bool true),
     ("$schema", located "schema"),
     ("properties", .obj
        [("additionalItems", schema), ("additionalProperties", schema),
         ("allOf", ref "#/$defs/schemaArray"), ("anyOf", ref "#/$defs/schemaArray"),
         ("contains", schema), ("dependentSchemas", named schema), ("else", schema),
         ("if", schema), ("items", anyOf [schema, ref "#/$defs/schemaArray"]), ("not", schema),
         ("oneOf", ref "#/$defs/schemaArray"), ("patternProperties", named schema),
         ("properties", named schema), ("propertyNames", schema), ("then", schema),
         ("unevaluatedItems", schema), ("unevaluatedProperties", schema)]),
     ("type", texts ["object", "boolean"])]

/-- The keywords about values as such. -/
def validation : Json :=
  .obj
    [("$defs", .obj
        [("nonNegativeInteger", .obj [("minimum", count 0), ("type", .str "integer")]),
         ("nonNegativeIntegerDefault0", ref "#/$defs/nonNegativeInteger"),
         ("simpleTypes", .obj
            [("enum",
               texts ["array", "boolean", "integer", "null", "number", "object", "string"])]),
         ("stringArray",
           .obj
             [("items", ofType "string"), ("type", .str "array"), ("uniqueItems", .bool true)])]),
     ("$id", located "meta/validation"), ("$recursiveAnchor", .bool true),
     ("$schema", located "schema"),
     ("properties", .obj
        [("const", .bool true), ("dependentRequired", named (ref "#/$defs/stringArray")),
         ("enum", .obj [("items", .bool true), ("type", .str "array")]),
         ("exclusiveMaximum", ofType "number"), ("exclusiveMinimum", ofType "number"),
         ("maxContains", ref "#/$defs/nonNegativeInteger"),
         ("maxItems", ref "#/$defs/nonNegativeInteger"),
         ("maxLength", ref "#/$defs/nonNegativeInteger"),
         ("maxProperties", ref "#/$defs/nonNegativeInteger"), ("maximum", ofType "number"),
         ("minContains", ref "#/$defs/nonNegativeInteger"),
         ("minItems", ref "#/$defs/nonNegativeIntegerDefault0"),
         ("minLength", ref "#/$defs/nonNegativeIntegerDefault0"),
         ("minProperties", ref "#/$defs/nonNegativeIntegerDefault0"),
         ("minimum", ofType "number"),
         ("multipleOf", .obj [("exclusiveMinimum", count 0), ("type", .str "number")]),
         ("pattern", ofType "string"), ("required", ref "#/$defs/stringArray"),
         ("type", anyOf
            [ref "#/$defs/simpleTypes",
             .obj
               [("items", ref "#/$defs/simpleTypes"), ("minItems", count 1),
                ("type", .str "array"), ("uniqueItems", .bool true)]]),
         ("uniqueItems", ofType "boolean")]),
     ("type", texts ["object", "boolean"])]

/-- The keywords that describe. -/
def remarks : Json :=
  .obj
    [("$id", located "meta/meta-data"), ("$recursiveAnchor", .bool true),
     ("$schema", located "schema"),
     ("properties", .obj
        [("default", .bool true), ("deprecated", ofType "boolean"),
         ("description", ofType "string"),
         ("examples", .obj [("items", .bool true), ("type", .str "array")]),
         ("readOnly", ofType "boolean"), ("title", ofType "string"),
         ("writeOnly", ofType "boolean")]),
     ("type", texts ["object", "boolean"])]

/-- The keyword that names a format. -/
def format : Json :=
  .obj
    [("$id", located "meta/format"), ("$recursiveAnchor", .bool true),
     ("$schema", located "schema"), ("properties", .obj [("format", ofType "string")]),
     ("type", texts ["object", "boolean"])]

/-- The keywords about what a text holds. -/
def content : Json :=
  .obj
    [("$id", located "meta/content"), ("$recursiveAnchor", .bool true),
     ("$schema", located "schema"),
     ("properties", .obj
        [("contentEncoding", ofType "string"), ("contentMediaType", ofType "string"),
         ("contentSchema", schema)]),
     ("type", texts ["object", "boolean"])]

/-- All schemas of the draft. -/
def documents : List Json :=
  [whole, core, applicator, validation, remarks, format, content]

end Dialogue.Standard.Draft2019
