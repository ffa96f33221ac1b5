import Dialogue.Context
import Dialogue.Failure
import Dialogue.Tool

/-!
# What a run depends on

A run asks a chat model for replies and a provider of tools for tools, and it may be told to stop.
All three belong to the world around the run. The world has states of a type `σ` of its own;
whatever is asked of it takes its state and gives the next one back, so nothing is said here about
what a model or a tool does.

A run looks at each of its turns whether it was told to stop. A call that it made may have done so,
which shows in the state of the world. Or others have, who do not wait for a call: when they do is
told by the number of the turn.
-/
namespace Dialogue

/-- The world around a run. -/
structure Collaborators (σ : Type) where
  /-- The reply to a conversation, or why there is none. -/
  complete : List ChatTurn → σ → Except String String × σ
  /-- The tool of a namespace and a function. -/
  resolve : (space function : String) → σ → Option (Tool σ) × σ
  /-- Whether a call has told the run to stop. -/
  cancelled : σ → Bool
  /-- Whether others have told the run to stop before it takes the turn of that number. -/
  interrupted : (turn : Nat) → Bool := fun _ => false

/-- Whether the run finds, when it takes the turn of that number, that it was told to stop. -/
def Collaborators.stopsAt {σ : Type} (c : Collaborators σ) (turn : Nat) (world : σ) : Bool :=
  c.cancelled world || c.interrupted turn

/-- Why a run did not come to its end. -/
inductive RunError where
  | invalidScript (reason : StepError)
  | invalidRecipient (recipient : String)
  | toolNotFound (recipient : String)
  | invalidArguments (recipient message : String)
  | toolFailed (recipient message : String)
  | chatFailed (message : String)
  | cancelled
  deriving Repr, DecidableEq

namespace RunError

/-- A name for the reason that does not change. -/
def kind : RunError → String
  | invalidScript _ => "invalid_script"
  | invalidRecipient _ => "invalid_recipient"
  | toolNotFound _ => "tool_not_found"
  | invalidArguments _ _ => "invalid_arguments"
  | toolFailed _ _ => "tool_failed"
  | chatFailed _ => "chat_failed"
  | cancelled => "cancelled"

def message : RunError → String
  | invalidScript reason => "invalid script: " ++ reason.message
  | invalidRecipient recipient => "invalid tool recipient '" ++ recipient ++ "'"
  | toolNotFound recipient => "tool '" ++ recipient ++ "' not found"
  | invalidArguments recipient message =>
      "invalid arguments for tool '" ++ recipient ++ "': " ++ message
  | toolFailed recipient message => "tool '" ++ recipient ++ "' failed: " ++ message
  | chatFailed message => "chat provider failed: " ++ message
  | cancelled => "execution cancelled"

/-- The failure that is reported; its details name the kind of the reason. -/
def failure (e : RunError) : Failure := ⟨.execution, e.message, .obj [("kind", .str e.kind)]⟩

end RunError

/-- The error of a call to a tool under the name that the script used. -/
def ToolError.asRunError (recipient : String) : ToolError → RunError
  | invalidArguments message => .invalidArguments recipient message
  | failed message => .toolFailed recipient message

end Dialogue
