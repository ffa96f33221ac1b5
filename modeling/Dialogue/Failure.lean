import Dialogue.Json.Decoder

/-!
# Failures

Whatever goes wrong with an envelope or a run is told as a failure: a code that does not change, a
message for people, and details, which are mostly a list of lines.
-/
namespace Dialogue

open Json (Decoder ShapedSlot)

inductive FailureCode where
  | format
  | schemaEnvelope
  | schemaScript
  | semantic
  | execution
  deriving Repr, DecidableEq

namespace FailureCode

def name : FailureCode → String
  | format => "HRF_FORMAT_ERROR"
  | schemaEnvelope => "HRF_SCHEMA_ENVELOPE_FAILED"
  | schemaScript => "HRF_SCHEMA_SCRIPT_FAILED"
  | semantic => "HRF_SEMANTIC_VALIDATION_FAILED"
  | execution => "HRF_EXECUTION_ERROR"

def known : List (String × FailureCode) :=
  [format, schemaEnvelope, schemaScript, semantic, execution].map fun code => (code.name, code)

end FailureCode

structure Failure where
  code : FailureCode := .format
  message : String := ""
  details : Json := .null
  deriving Repr, DecidableEq

namespace Failure

/-- A failure whose details are lines. -/
def ofLines (code : FailureCode) (message : String) (lines : List String) : Failure :=
  ⟨code, message, .ofStrings lines⟩

/-- The strings among the details, if these are a list. -/
def lines (failure : Failure) : List String :=
  match failure.details with
  | .arr items => items.filterMap Json.asString?
  | _ => []

/-- The failure in one line. -/
def display (failure : Failure) : String := "[" ++ failure.code.name ++ "] " ++ failure.message

/-- The fields in the order in which a listing shows them. -/
def listing (failure : Failure) : List (String × Json) :=
  [("code", .str failure.code.name), ("message", .str failure.message),
    ("details", failure.details)]

def toJson (failure : Failure) : Json :=
  .obj
    [("code", .str failure.code.name), ("details", failure.details),
      ("message", .str failure.message)]

def slots : List (ShapedSlot Failure) :=
  [.ofRequired "code" (.choice FailureCode.known) fun code failure => { failure with code },
    .ofRequired "message" .text fun message failure => { failure with message },
    .ofDefault "details" .any fun details failure => { failure with details }]

def decoder : Decoder Failure := .record "HrfError" slots {}

end Failure

end Dialogue
