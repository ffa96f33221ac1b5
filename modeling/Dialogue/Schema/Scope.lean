import Dialogue.Schema.Catalogue

/-!
# Scopes

What a schema means depends on where it is read: on the place that its references are looked up at,
and on its draft and vocabularies, which settle what keywords there are. A schema inside another has
the vocabularies of the one around it, and may have a draft of its own.
-/
namespace Dialogue

/-- What the keywords of a schema belong to. -/
inductive Vocabulary where
  | core
  | applicator
  | unevaluated
  | validation
  deriving Repr, DecidableEq

namespace Draft

/-- The keywords of the drafts from one to another, by vocabulary. -/
def keywords : List (Draft × Draft × Vocabulary × List String) :=
  [(draft4, draft2020, .core, ["$ref"]),
    (draft2019, draft2019, .core, ["$recursiveRef"]),
    (draft2020, draft2020, .core, ["$dynamicRef"]),
    (draft4, draft7, .core, ["format"]),
    (draft6, draft7, .core, ["contentEncoding", "contentMediaType"]),
    (draft4, draft2020, .applicator,
      ["additionalProperties", "allOf", "anyOf", "dependencies", "items", "not", "oneOf",
        "patternProperties", "properties"]),
    (draft6, draft2020, .applicator, ["contains", "propertyNames"]),
    (draft7, draft2020, .applicator, ["if"]),
    (draft2019, draft2020, .applicator, ["dependentSchemas"]),
    (draft4, draft2019, .applicator, ["additionalItems"]),
    (draft2020, draft2020, .applicator, ["prefixItems"]),
    (draft2019, draft2019, .applicator, ["unevaluatedItems", "unevaluatedProperties"]),
    (draft2020, draft2020, .unevaluated, ["unevaluatedItems", "unevaluatedProperties"]),
    (draft4, draft2020, .validation,
      ["enum", "maxItems", "maxLength", "maxProperties", "maximum", "minItems", "minLength",
        "minProperties", "minimum", "multipleOf", "pattern", "required", "type", "uniqueItems"]),
    (draft6, draft2020, .validation, ["const", "exclusiveMaximum", "exclusiveMinimum"]),
    (draft2019, draft2020, .validation, ["dependentRequired"])]

/-- The vocabulary of a keyword of the draft. -/
def vocabularyOf? (d : Draft) (key : String) : Option Vocabulary :=
  (keywords.find? fun (first, last, _, keys) =>
    first.rank ≤ d.rank && d.rank ≤ last.rank && keys.contains key).map fun entry => entry.2.2.1

end Draft

/-- There are the keywords of a vocabulary. -/
def Vocabularies.include (v : Vocabularies) : Vocabulary → Bool
  | .core => true
  | .applicator => v.applicator
  | .unevaluated => v.unevaluated
  | .validation => v.validation

/-- Where a schema is read. -/
structure Scope where
  place : Catalogue.Place
  draft : Draft
  vocabularies : Vocabularies
  deriving DecidableEq

namespace Scope

/-- The scope of a document of the latest draft that has a base. -/
def ofDocument? (base : Uri) (document : Json) : Option Scope := do
  let place ← Catalogue.Place.within? ⟨base, []⟩ .draft2020 document
  return ⟨place, .draft2020, Draft.draft2020.vocabulariesOf document⟩

/-- The scope of a schema inside another. -/
def inside? (s : Scope) (j : Json) : Option Scope := do
  let draft := (s.draft.of? j).getD .draft2020
  return { s with place := ← s.place.within? draft j, draft }

/-- The scope of what a reference leads to. -/
def ofFound (found : Catalogue.Found) : Scope :=
  ⟨found.place, found.draft, found.draft.vocabulariesOf found.contents⟩

/-- A field is a keyword. In the early drafts the vocabularies leave nothing out. -/
def knows (s : Scope) (key : String) : Bool :=
  (s.draft.vocabularyOf? key).any fun v => s.draft.isEarly || s.vocabularies.include v

end Scope

end Dialogue
