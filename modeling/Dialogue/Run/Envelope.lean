import Dialogue.Conversation
import Dialogue.Run.Script
import Dialogue.Validation.Verdict

/-!
# Running an envelope

An envelope is run by running its script, with the conversation of its other messages as history. It
has to be valid and to hold a script; otherwise nothing is asked of the world.
-/
namespace Dialogue

variable {σ : Type}

namespace Envelope

/-- The script of a valid envelope. -/
def runnable (checks : StructureChecks) (options : ValidationOptions) (e : Envelope) :
    Except Failure Script :=
  match e.failure? checks options with
  | some failure => .error failure
  | none =>
      match e.script with
      | .error mismatch =>
          .error { code := .schemaScript, message := "invalid script: " ++ mismatch.message }
      | .ok none =>
          .error { code := .execution, message := "envelope carries no harmony-script message" }
      | .ok (some script) => .ok script

/-- Run the script of an envelope; `setup` gives everything but the history. -/
def run (checks : StructureChecks) (options : ValidationOptions) (c : Collaborators σ)
    (setup : RunSetup) (input : Fields) (world : σ) (e : Envelope) :
    Except Failure RunResult × σ :=
  match e.runnable checks options with
  | .error failure => (.error failure, world)
  | .ok script =>
      let (result, world) := script.run c { setup with history := e.conversation } input world
      (.ok result, world)

end Envelope

end Dialogue
