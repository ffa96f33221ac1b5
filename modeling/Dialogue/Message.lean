import Dialogue.Json.Decoder
import Dialogue.Text.Ascii

/-!
# Messages

A message has a role, which is free text, and content, which is any value. It may name a channel, a
recipient and a content type, and it may say how it ended. Roles and content types are compared as
written unless a definition here says otherwise.

As a value a message is an object with all six fields, null where there is nothing. It is read from
objects that leave fields out.
-/
namespace Dialogue

open Json (Decoder ShapedSlot)

/-- The purpose of an assistant's message. -/
inductive Channel where
  | analysis
  | commentary
  | final
  deriving Repr, DecidableEq

namespace Channel

def name : Channel → String
  | analysis => "analysis"
  | commentary => "commentary"
  | final => "final"

def known : List (String × Channel) :=
  [("analysis", analysis), ("commentary", commentary), ("final", final)]

/-- The channel of that name, in any ASCII letter case. -/
def ofName? (s : String) : Option Channel := known.lookup s.toLower

def decoder : Decoder Channel := .choice known

end Channel

/-- How a turn ended. -/
inductive Termination where
  | ended
  | called
  | returned
  deriving Repr, DecidableEq

namespace Termination

def name : Termination → String
  | ended => "end"
  | called => "call"
  | returned => "return"

def known : List (String × Termination) :=
  [("end", ended), ("call", called), ("return", returned)]

def decoder : Decoder Termination := .choice known

end Termination

structure Message where
  role : String := ""
  channel : Option Channel := none
  recipient : Option String := none
  contentType : Option String := none
  content : Json := .null
  termination : Option Termination := none
  deriving Repr, DecidableEq

namespace Message

/-- A message with a role and a text, and nothing else. -/
def plain (role content : String) : Message := { role, content := .str content }

/-- The role is `assistant` as written. -/
def isAssistant (m : Message) : Bool := m.role == "assistant"

/-- The content type is `harmony-script` as written. -/
def isScript (m : Message) : Bool := m.contentType == some "harmony-script"

def ofOption (s : Option String) : Json := s.elim .null .str

/-- The fields in the order in which a listing shows them. -/
def listing (m : Message) : List (String × Json) :=
  [("role", .str m.role), ("channel", ofOption (m.channel.map Channel.name)),
    ("recipient", ofOption m.recipient), ("contentType", ofOption m.contentType),
    ("content", m.content), ("termination", ofOption (m.termination.map Termination.name))]

def toJson (m : Message) : Json :=
  .obj
    [("channel", ofOption (m.channel.map Channel.name)), ("content", m.content),
      ("contentType", ofOption m.contentType), ("recipient", ofOption m.recipient),
      ("role", .str m.role), ("termination", ofOption (m.termination.map Termination.name))]

def slots : List (ShapedSlot Message) :=
  [.ofDefault "role" .text fun role m => { m with role },
    .ofDefault "channel" (.optional Channel.decoder) fun channel m => { m with channel },
    .ofDefault "recipient" (.optional .text) fun recipient m => { m with recipient },
    .ofDefault "contentType" (.optional .text) fun contentType m => { m with contentType },
    .ofDefault "content" .any fun content m => { m with content },
    .ofDefault "termination" (.optional Termination.decoder)
      fun termination m => { m with termination }]

def decoder : Decoder Message := .record "Message" slots {}

def ofJson : Json → Except Json.Mismatch Message := decoder.ofJson

end Message

end Dialogue
