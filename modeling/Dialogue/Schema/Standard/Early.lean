import Dialogue.Schema.Standard.Basic

/-!
# The schemas of the early drafts

Each of the early drafts has one schema, which describes the schemas of that draft.
-/
namespace Dialogue.Standard

/-- The reference to a schema of an early draft. -/
def located (path : String) : Json := .str (Draft.address "http" ("/" ++ path))

/-- What a schema of the first draft looks like. -/
def draft4 : Json :=
  .obj
    [("$schema", located "draft-04/schema#"),
     ("definitions", .obj
        [("positiveInteger", .obj [("minimum", count 0), ("type", .str "integer")]),
         ("positiveIntegerDefault0", .obj
            [("allOf",
               .arr [ref "#/definitions/positiveInteger", .obj [("default", count 0)]])]),
         ("schemaArray",
           .obj [("items", ref "#"), ("minItems", count 1), ("type", .str "array")]),
         ("simpleTypes", .obj
            [("enum",
               texts ["array", "boolean", "integer", "null", "number", "object", "string"])]),
         ("stringArray", .obj
            [("items", ofType "string"), ("minItems", count 1), ("type", .str "array"),
             ("uniqueItems", .bool true)])]),
     ("dependencies",
       .obj [("exclusiveMaximum", texts ["maximum"]), ("exclusiveMinimum", texts ["minimum"])]),
     ("id", located "draft-04/schema#"),
     ("properties", .obj
        [("$schema", ofType "string"), ("additionalItems", anyOf [ofType "boolean", ref "#"]),
         ("additionalProperties", anyOf [ofType "boolean", ref "#"]),
         ("allOf", ref "#/definitions/schemaArray"), ("anyOf", ref "#/definitions/schemaArray"),
         ("default", .obj []), ("definitions", named (ref "#")),
         ("dependencies", named (anyOf [ref "#", ref "#/definitions/stringArray"])),
         ("description", ofType "string"),
         ("enum",
           .obj [("minItems", count 1), ("type", .str "array"), ("uniqueItems", .bool true)]),
         ("exclusiveMaximum", ofType "boolean"), ("exclusiveMinimum", ofType "boolean"),
         ("format", ofType "string"), ("id", ofType "string"),
         ("items", anyOf [ref "#", ref "#/definitions/schemaArray"]),
         ("maxItems", ref "#/definitions/positiveInteger"),
         ("maxLength", ref "#/definitions/positiveInteger"),
         ("maxProperties", ref "#/definitions/positiveInteger"), ("maximum", ofType "number"),
         ("minItems", ref "#/definitions/positiveIntegerDefault0"),
         ("minLength", ref "#/definitions/positiveIntegerDefault0"),
         ("minProperties", ref "#/definitions/positiveIntegerDefault0"),
         ("minimum", ofType "number"),
         ("multipleOf",
           .obj
             [("exclusiveMinimum", .bool true), ("minimum", count 0), ("type", .str "number")]),
         ("not", ref "#"), ("oneOf", ref "#/definitions/schemaArray"),
         ("pattern", ofFormat "regex"), ("patternProperties", named (ref "#")),
         ("properties", named (ref "#")), ("required", ref "#/definitions/stringArray"),
         ("title", ofType "string"),
         ("type", anyOf
            [ref "#/definitions/simpleTypes",
             .obj
               [("items", ref "#/definitions/simpleTypes"), ("minItems", count 1),
                ("type", .str "array"), ("uniqueItems", .bool true)]]),
         ("uniqueItems", ofType "boolean")]),
     ("type", .str "object")]

/-- What a schema of the second draft looks like. -/
def draft6 : Json :=
  .obj
    [("$id", located "draft-06/schema#"), ("$schema", located "draft-06/schema#"),
     ("definitions", .obj
        [("nonNegativeInteger", .obj [("minimum", count 0), ("type", .str "integer")]),
         ("nonNegativeIntegerDefault0", .obj
            [("allOf",
               .arr [ref "#/definitions/nonNegativeInteger", .obj [("default", count 0)]])]),
         ("schemaArray",
           .obj [("items", ref "#"), ("minItems", count 1), ("type", .str "array")]),
         ("simpleTypes", .obj
            [("enum",
               texts ["array", "boolean", "integer", "null", "number", "object", "string"])]),
         ("stringArray",
           .obj
             [("items", ofType "string"), ("type", .str "array"), ("uniqueItems", .bool true)])]),
     ("properties", .obj
        [("$id", ofFormat "uri-reference"), ("$ref", ofFormat "uri-reference"),
         ("$schema", ofFormat "uri"), ("additionalItems", ref "#"),
         ("additionalProperties", ref "#"), ("allOf", ref "#/definitions/schemaArray"),
         ("anyOf", ref "#/definitions/schemaArray"), ("const", .obj []), ("contains", ref "#"),
         ("default", .obj []), ("definitions", named (ref "#")),
         ("dependencies", named (anyOf [ref "#", ref "#/definitions/stringArray"])),
         ("description", ofType "string"), ("enum", ofType "array"),
         ("examples", .obj [("items", .obj []), ("type", .str "array")]),
         ("exclusiveMaximum", ofType "number"), ("exclusiveMinimum", ofType "number"),
         ("format", ofType "string"), ("items", anyOf [ref "#", ref "#/definitions/schemaArray"]),
         ("maxItems", ref "#/definitions/nonNegativeInteger"),
         ("maxLength", ref "#/definitions/nonNegativeInteger"),
         ("maxProperties", ref "#/definitions/nonNegativeInteger"), ("maximum", ofType "number"),
         ("minItems", ref "#/definitions/nonNegativeIntegerDefault0"),
         ("minLength", ref "#/definitions/nonNegativeIntegerDefault0"),
         ("minProperties", ref "#/definitions/nonNegativeIntegerDefault0"),
         ("minimum", ofType "number"),
         ("multipleOf", .obj [("exclusiveMinimum", count 0), ("type", .str "number")]),
         ("not", ref "#"), ("oneOf", ref "#/definitions/schemaArray"),
         ("pattern", ofFormat "regex"), ("patternProperties", named (ref "#")),
         ("properties", named (ref "#")), ("propertyNames", ref "#"),
         ("required", ref "#/definitions/stringArray"), ("title", ofType "string"),
         ("type", anyOf
            [ref "#/definitions/simpleTypes",
             .obj
               [("items", ref "#/definitions/simpleTypes"), ("minItems", count 1),
                ("type", .str "array"), ("uniqueItems", .bool true)]]),
         ("uniqueItems", ofType "boolean")]),
     ("type", texts ["object", "boolean"])]

/-- What a schema of the third draft looks like. -/
def draft7 : Json :=
  .obj
    [("$id", located "draft-07/schema#"), ("$schema", located "draft-07/schema#"),
     ("definitions", .obj
        [("nonNegativeInteger", .obj [("minimum", count 0), ("type", .str "integer")]),
         ("nonNegativeIntegerDefault0", .obj
            [("allOf",
               .arr [ref "#/definitions/nonNegativeInteger", .obj [("default", count 0)]])]),
         ("schemaArray",
           .obj [("items", ref "#"), ("minItems", count 1), ("type", .str "array")]),
         ("simpleTypes", .obj
            [("enum",
               texts ["array", "boolean", "integer", "null", "number", "object", "string"])]),
         ("stringArray",
           .obj
             [("items", ofType "string"), ("type", .str "array"), ("uniqueItems", .bool true)])]),
     ("properties", .obj
        [("$comment", ofType "string"), ("$id", ofFormat "uri-reference"),
         ("$ref", ofFormat "uri-reference"), ("$schema", ofFormat "uri"),
         ("additionalItems", ref "#"), ("additionalProperties", ref "#"),
         ("allOf", ref "#/definitions/schemaArray"), ("anyOf", ref "#/definitions/schemaArray"),
         ("const", .bool true), ("contains", ref "#"), ("contentEncoding", ofType "string"),
         ("contentMediaType", ofType "string"), ("default", .bool true),
         ("definitions", named (ref "#")),
         ("dependencies", named (anyOf [ref "#", ref "#/definitions/stringArray"])),
         ("description", ofType "string"), ("else", ref "#"),
         ("enum", .obj [("items", .bool true), ("type", .str "array")]),
         ("examples", .obj [("items", .bool true), ("type", .str "array")]),
         ("exclusiveMaximum", ofType "number"), ("exclusiveMinimum", ofType "number"),
         ("format", ofType "string"), ("if", ref "#"),
         ("items", anyOf [ref "#", ref "#/definitions/schemaArray"]),
         ("maxItems", ref "#/definitions/nonNegativeInteger"),
         ("maxLength", ref "#/definitions/nonNegativeInteger"),
         ("maxProperties", ref "#/definitions/nonNegativeInteger"), ("maximum", ofType "number"),
         ("minItems", ref "#/definitions/nonNegativeIntegerDefault0"),
         ("minLength", ref "#/definitions/nonNegativeIntegerDefault0"),
         ("minProperties", ref "#/definitions/nonNegativeIntegerDefault0"),
         ("minimum", ofType "number"),
         ("multipleOf", .obj [("exclusiveMinimum", count 0), ("type", .str "number")]),
         ("not", ref "#"), ("oneOf", ref "#/definitions/schemaArray"),
         ("pattern", ofFormat "regex"),
         ("patternProperties", .obj
            [("additionalProperties", ref "#"),
             ("propertyNames", .obj [("format", .str "regex")]), ("type", .str "object")]),
         ("properties", named (ref "#")), ("propertyNames", ref "#"),
         ("readOnly", ofType "boolean"), ("required", ref "#/definitions/stringArray"),
         ("then", ref "#"), ("title", ofType "string"),
         ("type", anyOf
            [ref "#/definitions/simpleTypes",
             .obj
               [("items", ref "#/definitions/simpleTypes"), ("minItems", count 1),
                ("type", .str "array"), ("uniqueItems", .bool true)]]),
         ("uniqueItems", ofType "boolean")]),
     ("type", texts ["object", "boolean"])]

end Dialogue.Standard
