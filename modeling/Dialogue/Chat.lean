import Dialogue.Json.Decoder

/-!
# Turns of a conversation

What a chat model is shown: a list of turns, each by the system, the user, the assistant or a tool.
A tool's turn carries the tool's name.
-/
namespace Dialogue

open Json (Decoder ShapedSlot)

inductive ChatRole where
  | system
  | user
  | assistant
  | tool
  deriving Repr, DecidableEq

namespace ChatRole

def name : ChatRole → String
  | system => "system"
  | user => "user"
  | assistant => "assistant"
  | tool => "tool"

def known : List (String × ChatRole) :=
  [("system", system), ("user", user), ("assistant", assistant), ("tool", tool)]

end ChatRole

structure ChatTurn where
  role : ChatRole := .system
  content : String := ""
  name : Option String := none
  deriving Repr, DecidableEq

namespace ChatTurn

def system (content : String) : ChatTurn := { role := .system, content }

def user (content : String) : ChatTurn := { role := .user, content }

def assistant (content : String) : ChatTurn := { role := .assistant, content }

def tool (name content : String) : ChatTurn := { role := .tool, content, name := some name }

/-- The name is left out where there is none. -/
def toJson (turn : ChatTurn) : Json :=
  let role : String × Json := ("role", .str turn.role.name)
  match turn.name with
  | none => .obj [("content", .str turn.content), role]
  | some name => .obj [("content", .str turn.content), ("name", .str name), role]

def slots : List (ShapedSlot ChatTurn) :=
  [.ofRequired "role" (.choice ChatRole.known) fun role turn => { turn with role },
    .ofRequired "content" .text fun content turn => { turn with content },
    .ofDefault "name" (.optional .text) fun name turn => { turn with name }]

def decoder : Decoder ChatTurn := .record "ChatTurn" slots {}

end ChatTurn

end Dialogue
