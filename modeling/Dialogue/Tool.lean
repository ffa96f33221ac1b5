import Dialogue.Json.Decoder
import Dialogue.Script.Rules

/-!
# Tools

A tool declares parameters and answers a call with a value or an error. Whoever offers tools may
remember things between calls, so a call takes the state of the world and gives it back.

A registry finds tools by the name `namespace.function`; a later tool of that name replaces an
earlier one. Recorded results make a registry whose tools ignore their arguments.
-/
namespace Dialogue

open Json (Decoder ShapedSlot)

/-- What a parameter is declared to be. -/
inductive ParameterKind where
  | string
  | number
  | boolean
  | stringList
  | object
  | any
  deriving Repr, DecidableEq

namespace ParameterKind

def name : ParameterKind → String
  | string => "string"
  | number => "number"
  | boolean => "boolean"
  | stringList => "string_list"
  | object => "object"
  | any => "any"

def known : List (String × ParameterKind) :=
  [string, number, boolean, stringList, object, any].map fun kind => (kind.name, kind)

end ParameterKind

structure Parameter where
  name : String := ""
  kind : ParameterKind := .any
  deriving Repr, DecidableEq

namespace Parameter

def toJson (p : Parameter) : Json := .obj [("kind", .str p.kind.name), ("name", .str p.name)]

def slots : List (ShapedSlot Parameter) :=
  [.ofRequired "name" .text fun name p => { p with name },
    .ofRequired "kind" (.choice ParameterKind.known) fun kind p => { p with kind }]

def decoder : Decoder Parameter := .record "ToolParameter" slots {}

end Parameter

/-- Why a tool did not answer a call. -/
inductive ToolError where
  | invalidArguments (message : String)
  | failed (message : String)
  deriving Repr, DecidableEq

/-- A tool in a world with states `σ`. -/
structure Tool (σ : Type) where
  parameters : List Parameter
  invoke : Fields → σ → Except ToolError Json × σ

namespace Tool

/-- A tool that always gives the same result. -/
def constant {σ : Type} (result : Json) : Tool σ := ⟨[], fun _ world => (.ok result, world)⟩

end Tool

/-- Tools by the name `namespace.function`. -/
structure Registry (σ : Type) where
  tools : Entries (Tool σ) := []

namespace Registry

variable {σ : Type}

def key (space function : String) : String := space ++ "." ++ function

def empty : Registry σ := {}

def register (r : Registry σ) (space function : String) (tool : Tool σ) : Registry σ :=
  ⟨Entries.insert (key space function) tool r.tools⟩

def resolve (r : Registry σ) (space function : String) : Option (Tool σ) :=
  Entries.get? (key space function) r.tools

def size (r : Registry σ) : Nat := r.tools.length

/-- The registry with one more recorded result; a name that is no recipient is passed over. -/
def addFixture (r : Registry σ) (name : String) (result : Json) : Registry σ :=
  match splitRecipient? name with
  | some (space, function) => r.register space function (.constant result)
  | none => r

/-- A tool for every recorded result, added in the order of the names. -/
def ofFixtures (fixtures : Fields) : Registry σ :=
  fixtures.foldl (fun r f => r.addFixture f.1 f.2) empty

end Registry

end Dialogue
