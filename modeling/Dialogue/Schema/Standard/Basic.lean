import Dialogue.Schema.Draft

/-!
# Writing schemas

The values in which the schemas of the drafts are written down here. Fields that ask for nothing,
such as titles and defaults, are left out.
-/
namespace Dialogue.Standard

/-- A number that counts something. -/
def count (n : Nat) : Json := .num (.whole (.ofLength n))

def texts (items : List String) : Json := .arr (items.map .str)

def ref (reference : String) : Json := .obj [("$ref", .str reference)]

def ofType (kind : String) : Json := .obj [("type", .str kind)]

def ofFormat (format : String) : Json :=
  .obj [("format", .str format), ("type", .str "string")]

def anyOf (options : List Json) : Json := .obj [("anyOf", .arr options)]

/-- An object, all properties of which satisfy a schema. -/
def named (s : Json) : Json := .obj [("additionalProperties", s), ("type", .str "object")]

end Dialogue.Standard
