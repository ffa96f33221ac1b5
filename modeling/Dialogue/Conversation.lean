import Dialogue.Chat
import Dialogue.Envelope
import Dialogue.Json.Printer

/-!
# The conversation of an envelope

What a chat model sees of an envelope: a turn for every message except the script. Content that is
not a string is shown as JSON.
-/
namespace Dialogue

/-- The turn of a message. A role that is none of the known ones, in any ASCII letter case, is the
name of a tool. -/
def Message.turn (m : Message) : ChatTurn :=
  let content := m.content.asString?.getD m.content.compact
  match m.role.toLower with
  | "system" => .system content
  | "developer" => .system content
  | "user" => .user content
  | "assistant" => .assistant content
  | _ => .tool m.role content

namespace Envelope

/-- The messages besides the script. -/
def spoken (e : Envelope) : List Message :=
  match e.scriptIndex? with
  | none => e.messages
  | some i => e.messages.eraseIdx i

/-- The turns of the messages besides the script. -/
def conversation (e : Envelope) : List ChatTurn := e.spoken.map Message.turn

end Envelope

end Dialogue
