import Dialogue.Failure
import Dialogue.Schema.Bundled

/-!
# Structural checks

What validation asks of schemas: a check of envelopes and a check of scripts. A schema document has
both: it is the schema of envelopes, and one of its definitions is the schema of scripts.

Where a document is no schema, the evaluator of schemas says why. Its words are its own, so they are
given from outside, for each document that it refuses.
-/
namespace Dialogue

/-- The checks, each of which gives the failure of a value that does not pass. -/
structure StructureChecks where
  envelope : Json → Option Failure
  script : Json → Option Failure

/-- Why a schema document cannot be used. -/
inductive SchemaError where
  | missingDefinition (name : String)
  | envelopeNotCompiled {reason : String}
  | scriptNotCompiled {reason : String}
  deriving Repr, DecidableEq

def SchemaError.message : SchemaError → String
  | missingDefinition name => "schema document has no '$defs/" ++ name ++ "' definition"
  | @envelopeNotCompiled reason => "failed to compile envelope schema: " ++ reason
  | @scriptNotCompiled reason => "failed to compile script schema: " ++ reason

/-- The failure that tells all diagnostics of a value, if there are any. -/
def ClosedSchema.failure? (s : ClosedSchema) (code : FailureCode) (message : String) (j : Json) :
    Option Failure :=
  match s.faults j with
  | [] => none
  | faults => some (.ofLines code message (faults.map Diagnostic.line))

namespace StructureChecks

def ofSchemas (envelope script : ClosedSchema) : StructureChecks where
  envelope := envelope.failure? .schemaEnvelope "envelope failed schema validation"
  script := script.failure? .schemaScript "script failed schema validation"

def bundled : StructureChecks :=
  ofSchemas ⟨Schema.Bundled.envelope, Schema.Bundled.targets⟩
    ⟨.all [.reference "#/$defs/HarmonyScript"], Schema.Bundled.targets⟩

/-- The definition that is the schema of scripts. -/
def scriptDefinition : String := "HarmonyScript"

/-- The document whose schema is the definition of scripts. -/
def scriptDocument (definitions : Json) : Json :=
  .obj [("$defs", definitions), ("$ref", .str ("#/$defs/" ++ scriptDefinition))]

/-- The definitions of a document, if the one of scripts is among them. -/
def definitions? (document : Json) : Option Json := do
  let definitions ← Entries.get? "$defs" (← document.asFields?)
  if Entries.contains scriptDefinition (← definitions.asFields?) then return definitions else none

/-- The checks of a schema document. -/
def ofDocument (document : Json) (refusal : Json → String := fun _ => "not a schema") :
    Except SchemaError StructureChecks :=
  match definitions? document with
  | none => .error (.missingDefinition scriptDefinition)
  | some definitions =>
      match ClosedSchema.ofDocument? document with
      | none => .error (@SchemaError.envelopeNotCompiled (refusal document))
      | some envelope =>
          let nested := scriptDocument definitions
          match ClosedSchema.ofDocument? nested with
          | none => .error (@SchemaError.scriptNotCompiled (refusal nested))
          | some script => .ok (ofSchemas envelope script)

end StructureChecks

end Dialogue
