import Dialogue.Json.Printer
import Dialogue.Message
import Dialogue.Wire.Token

/-!
# Running text of messages

Every message is written with the tokens of the parts that it has. Text content stands as it is,
other content as compact JSON, and null as nothing. A message that does not say how it ended is
closed with `<|end|>`.
-/
namespace Dialogue.Wire

/-- The token that closes a message. -/
def terminator : Option Termination → Token
  | some .called => .call
  | some .returned => .answer
  | some .ended => .finish
  | none => .finish

/-- The words of a channel header. -/
def headerChars : Option Channel → Option String → List Char
  | some channel, some recipient => channel.name.toList ++ ' ' :: "to=".toList ++ recipient.toList
  | some channel, none => channel.name.toList
  | none, some recipient => "to=".toList ++ recipient.toList
  | none, none => []

def contentChars : Json → List Char
  | .str s => s.toList
  | .null => []
  | j => j.chars

/-- One message. -/
def messageChars (m : Message) : List Char :=
  let header :=
    if m.channel.isSome || m.recipient.isSome then
      Token.channel.chars ++ headerChars m.channel m.recipient
    else []
  let contentType := m.contentType.elim [] fun type => Token.constrain.chars ++ type.toList
  Token.start.chars ++ m.role.toList ++ header ++ contentType ++ Token.message.chars ++
    contentChars m.content ++ (terminator m.termination).chars

/-- The running text of messages. -/
def render (messages : List Message) : String := String.ofList (messages.flatMap messageChars)

end Dialogue.Wire
