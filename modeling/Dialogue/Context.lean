import Dialogue.Chat
import Dialogue.Variables

/-!
# The state of a run

What a script reads and writes: its variables, its input, which never changes, the conversation so
far, and the text that the run will end with.
-/
namespace Dialogue

structure Context where
  vars : Variables := {}
  input : Fields := []
  log : List ChatTurn := []
  finalText : String := ""
  deriving DecidableEq

namespace Context

/-- Bind a variable. -/
def bind (ctx : Context) (name : String) (value : Json) : Context :=
  { ctx with vars := ctx.vars.set name value }

/-- Add a turn to the conversation. -/
def say (ctx : Context) (turn : ChatTurn) : Context := { ctx with log := ctx.log ++ [turn] }

end Context

end Dialogue
