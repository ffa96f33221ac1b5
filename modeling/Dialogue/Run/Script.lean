import Dialogue.Run.Machine

/-!
# Running a script

A script is run only if all of its steps pass their rules. When the walk ends well but has left no
text to end with, the chat model is asked for a summary of the conversation. Whatever happens, the
result shows the variables and the text that were reached.
-/
namespace Dialogue

variable {σ : Type}

/-- What a run starts with besides the script and its input. -/
structure RunSetup where
  history : List ChatTurn := []
  summarizePrompt : String := "Summarize the results above."
  deriving Repr, DecidableEq

/-- What a run shows in the end. -/
structure RunResult where
  finalText : String
  vars : Fields
  error : Option Failure
  deriving Repr, DecidableEq

namespace RunResult

def succeeded (r : RunResult) : Bool := r.error.isNone

/-- The fields in the order in which a listing shows them; a run that succeeded shows no error. -/
def listing (r : RunResult) : List (String × Json) :=
  ("final_text", .str r.finalText) :: ("vars", .obj r.vars) ::
    match r.error with
    | none => []
    | some failure => [("error", .obj failure.listing)]

end RunResult

/-- The result of a run that has stopped. -/
def Stop.result (stop : Stop σ) : RunResult :=
  ⟨stop.ctx.finalText, stop.ctx.vars.snapshot, stop.error.map RunError.failure⟩

namespace Stop

/-- Ask the chat model for a summary of what the run has come to. -/
def summarize (c : Collaborators σ) (prompt : String) (stop : Stop σ) : Stop σ :=
  let ctx := stop.ctx.say (.user prompt)
  match ctx.complete c stop.world with
  | ⟨.error e, ctx, world⟩ => ⟨some e, ctx, world⟩
  | ⟨.ok _, ctx, world⟩ => ⟨none, ctx, world⟩

/-- A run that ended well ends with a text. -/
def close (c : Collaborators σ) (prompt : String) (stop : Stop σ) : Stop σ :=
  if stop.error.isNone && Text.showsNothing stop.ctx.finalText then stop.summarize c prompt
  else stop

end Stop

namespace Script

/-- The context in which a run of the script starts. -/
def start (script : Script) (input : Fields) (history : List ChatTurn) : Context :=
  { vars := .ofFields (script.vars.getD []), input, log := history }

/-- Where a run of the script stops. -/
def stop (script : Script) (c : Collaborators σ) (setup : RunSetup) (input : Fields) (world : σ) :
    Stop σ :=
  let ctx := script.start input setup.history
  match script.validate with
  | .error reason => ⟨some (.invalidScript reason), ctx, world⟩
  | .ok _ => (Machine.walk c (.start script.steps ctx world)).close c setup.summarizePrompt

/-- Run the script. -/
def run (script : Script) (c : Collaborators σ) (setup : RunSetup) (input : Fields) (world : σ) :
    RunResult × σ :=
  let stop := script.stop c setup input world
  (stop.result, stop.world)

end Script

end Dialogue
