import Dialogue.Envelope
import Dialogue.Schema.Structure
import Dialogue.Validation.Violation

/-!
# The rules of envelopes

What each rule asks of an envelope, beyond the schema. Two rules look at the envelope as a whole;
the others look at one message at a time and find at most one problem in it. Roles are compared as
written.
-/
namespace Dialogue

namespace Message

def roleProblem? (m : Message) : Option Problem :=
  if Text.showsNothing m.role then some .roleMissing else none

def terminationProblem? (m : Message) : Option Problem :=
  if m.termination.isSome && !m.isAssistant then some (.terminationByOther m.role) else none

def channelProblem? (m : Message) : Option Problem :=
  if m.isAssistant && m.channel.isNone then some .channelMissing else none

/-- A script has to be an object that the schema of scripts allows and whose steps pass their rules.
-/
def scriptProblem? (checks : StructureChecks) (content : Json) : Option Problem :=
  if content.asFields?.isNone then some .scriptNotObject
  else
    match checks.script content with
    | some failure => some (.scriptRefused failure)
    | none =>
        match Script.ofJson content with
        | .ok _ => none
        | .error mismatch => some (.scriptUnreadable mismatch)

/-- Content without a type is text; content of the type `json` may be anything. -/
def contentProblem? (checks : StructureChecks) (m : Message) : Option Problem :=
  match m.contentType with
  | none => if m.content.isString then none else some .contentNotText
  | some contentType =>
      if contentType = "json" then none
      else if contentType = "harmony-script" then scriptProblem? checks m.content
      else some (.unknownContentType contentType)

end Message

namespace Envelope

/-- The violations by single messages, in their order. -/
def violationsBy (problem? : Message → Option Problem) (e : Envelope) : List Violation :=
  e.messages.zipIdx.filterMap fun (m, i) => (problem? m).map fun problem => ⟨some i, problem⟩

def shapeProblems (e : Envelope) : List Problem :=
  (if Text.showsNothing e.version then [.versionMissing] else []) ++
    (if e.messages.isEmpty then [.messagesMissing] else [])

/-- How many messages say how they ended. -/
def terminations (e : Envelope) : Nat := e.messages.countP fun m => m.termination.isSome

end Envelope

/-- The violations of a rule. -/
def Rule.violations (checks : StructureChecks) (e : Envelope) : Rule → List Violation
  | envelopeShape => e.shapeProblems.map (⟨none, ·⟩)
  | messageRole => e.violationsBy Message.roleProblem?
  | terminationRole => e.violationsBy Message.terminationProblem?
  | contentType => e.violationsBy (Message.contentProblem? checks)
  | assistantChannel => e.violationsBy Message.channelProblem?
  | singleTermination =>
      if 1 < e.terminations then [⟨none, .manyTerminations e.terminations⟩] else []

end Dialogue
