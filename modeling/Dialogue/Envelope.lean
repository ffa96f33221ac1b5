import Dialogue.Message
import Dialogue.Script.Codec

/-!
# Envelopes

An envelope is a version and a list of messages. At most one of its messages is its script: the
first with the role `system`, in any ASCII letter case, and exactly the content type
`harmony-script`.
-/
namespace Dialogue

open Json (Decoder ShapedSlot)

structure Envelope where
  version : String := ""
  messages : List Message := []
  deriving Repr, DecidableEq

namespace Envelope

/-- The fields in the order in which a listing shows them. -/
def listing (e : Envelope) : List (String × Json) :=
  [("HRFVersion", .str e.version), ("messages", .arr (e.messages.map fun m => .obj m.listing))]

def toJson (e : Envelope) : Json :=
  .obj [("HRFVersion", .str e.version), ("messages", .arr (e.messages.map Message.toJson))]

def slots : List (ShapedSlot Envelope) :=
  [.ofDefault "HRFVersion" .text fun version e => { e with version },
    .ofDefault "messages" (.listOf Message.decoder) fun messages e => { e with messages }]

def decoder : Decoder Envelope := .record "Envelope" slots {}

def ofJson : Json → Except Json.Mismatch Envelope := decoder.ofJson

/-- A message outside of running text: only an assistant's turn keeps how it ended. -/
def unframed (m : Message) : Message :=
  if m.isAssistant then m else { m with termination := none }

/-- An envelope of messages that were framed in running text, where each of them has an end. -/
def ofConversation (version : String) (conversation : List Message) : Envelope :=
  ⟨version, conversation.map unframed⟩

def isScriptMessage (m : Message) : Bool :=
  Text.sameIgnoringAsciiCase m.role "system" && m.isScript

/-- Where the script stands. -/
def scriptIndex? (e : Envelope) : Option Nat := e.messages.findIdx? isScriptMessage

/-- The message that is the script. -/
def scriptMessage? (e : Envelope) : Option Message := e.messages.find? isScriptMessage

/-- The script, if there is one. -/
def script (e : Envelope) : Except Json.Mismatch (Option Script) :=
  match e.scriptMessage? with
  | none => .ok none
  | some m => (Script.ofJson m.content).map some

end Envelope

end Dialogue
