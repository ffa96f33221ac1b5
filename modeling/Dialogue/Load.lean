import Dialogue.Failure
import Dialogue.Wire.Parser

/-!
# Loading an envelope

A text that begins with an opening brace, blanks apart, is an envelope as JSON; any other text is
running text, whose messages make up an envelope of a version given from outside.
-/
namespace Dialogue

inductive InputFormat where
  | envelope
  | wire
  deriving Repr, DecidableEq

/-- What kind of text an envelope is to be loaded from. -/
def InputFormat.ofText (text : String) : InputFormat :=
  if (Text.trimStart text.toList).head? = some '{' then .envelope else .wire

def Failure.ofFormatError (e : Wire.FormatError) : Failure :=
  { code := .format, message := e.message }

namespace Envelope

/-- The envelope of a text in either format. -/
def load (text defaultVersion : String) : Except Failure Envelope :=
  match InputFormat.ofText text with
  | .envelope =>
      (decoder.ofText text).mapError fun reason =>
        { code := .format, message := "invalid envelope JSON: " ++ reason }
  | .wire =>
      match Wire.parse text with
      | .ok messages => .ok (ofConversation defaultVersion messages)
      | .error e => .error (.ofFormatError e)

end Envelope

end Dialogue
