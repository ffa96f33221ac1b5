import Dialogue.Envelope
import Dialogue.Json.Reader
import Dialogue.Text.Blank
import Dialogue.Wire.Token

/-!
# Messages in running text

A message begins with `<|start|>` and its role. A channel header may follow after `<|channel|>`, a
content type after `<|constrain|>`, and the content after `<|message|>`, up to the first terminator.
Text between messages is passed over. Every search is for the leftmost of the tokens that may end
the part at hand, so a part may hold the other tokens as plain text.

Content is kept as it stands unless its type is `json` or `harmony-script`, in any ASCII letter
case; then it has to be JSON. Places are counted in bytes from the beginning of the text.
-/
namespace Dialogue.Wire

/-- Why running text has no messages to give. `index` counts the messages before the faulty one. -/
inductive FormatError where
  | missingRole (index offset : Nat)
  | headerWithoutMessage (index offset : Nat)
  | unknownChannel (index offset : Nat) (name : String)
  | missingTerminator (index offset : Nat)
  | invalidJson (index : Nat) (contentType reason : String)
  deriving Repr, DecidableEq

namespace FormatError

def message : FormatError → String
  | missingRole index offset => s!"message {index} (byte {offset}): missing role"
  | headerWithoutMessage index offset =>
      s!"message {index} (byte {offset}): header did not lead to message"
  | unknownChannel index offset name =>
      s!"message {index} (byte {offset}): unknown channel '" ++ name ++ "'"
  | missingTerminator index offset => s!"message {index} (byte {offset}): missing terminator"
  | invalidJson index contentType reason =>
      s!"message {index}: content is not valid " ++ contentType ++ ": " ++ reason

end FormatError

/-- Text still to be read and the place where it begins. -/
structure Cursor where
  rest : List Char
  offset : Nat
  deriving Repr, DecidableEq

namespace Cursor

/-- The text up to the leftmost of `tokens`, that token, and the cursor after it. -/
def cutAt? (tokens : List Token) (here : Cursor) : Option (List Char × Token × Cursor) :=
  (splitAtFirst? tokens here.rest).map fun cut =>
    (cut.before, cut.token,
      ⟨cut.after, here.offset + Text.byteLength cut.before + Text.byteLength cut.token.chars⟩)

end Cursor

/-- What a channel header says. -/
structure Header where
  channel : Option Channel := none
  recipient : Option String := none
  deriving Repr, DecidableEq

namespace Header

/-- What marks the recipient among the words of a header. -/
def recipientMark : List Char := "to=".toList

/-- A header with further words read into it: the last recipient that is not empty counts, and the
first other word, which has to be the name of a channel. An unknown name is the error. -/
def readWords : Header → List (List Char) → Except String Header
  | header, [] => .ok header
  | header, word :: rest =>
      match Text.dropLeading? recipientMark word with
      | some [] => readWords header rest
      | some recipient => readWords { header with recipient := some (String.ofList recipient) } rest
      | none =>
          if header.channel.isSome then readWords header rest
          else
            match Channel.ofName? (String.ofList word) with
            | some channel => readWords { header with channel := some channel } rest
            | none => .error (String.ofList word)

end Header

/-- Content of this type is JSON. -/
def holdsJson (contentType : String) : Bool :=
  Text.sameIgnoringAsciiCase contentType "json" ||
    Text.sameIgnoringAsciiCase contentType "harmony-script"

/-- How the turn ended that a terminator closes. -/
def terminationOf : Token → Termination
  | .call => .called
  | .answer => .returned
  | _ => .ended

/-- The content between `<|message|>` and a terminator. -/
def readContent (index : Nat) (contentType : Option String) (raw : List Char) :
    Except FormatError Json :=
  match contentType with
  | none => .ok (.str (String.ofList raw))
  | some type =>
      if holdsJson type then
        (Json.ofChars raw).mapError fun fault => .invalidJson index type (fault.message raw)
      else .ok (.str (String.ofList raw))

/-- What follows a role: its header, and the token and the cursor after it. -/
def readHeader (missing : FormatError) (index : Nat) (token : Token) (here : Cursor) :
    Except FormatError (Header × Token × Cursor) :=
  if token = .channel then
    match here.cutAt? Token.afterChannel with
    | none => .error missing
    | some (before, next, after) =>
        match Header.readWords {} (Text.words before) with
        | .error name => .error (.unknownChannel index here.offset name)
        | .ok header => .ok (header, next, after)
  else .ok ({}, token, here)

/-- What follows a header: its content type, if any, and the cursor where the content begins. -/
def readContentType (missing : FormatError) (token : Token) (here : Cursor) :
    Except FormatError (Option String × Cursor) :=
  if token = .constrain then
    match here.cutAt? Token.afterConstrain with
    | none => .error missing
    | some (before, _, after) => .ok (some (String.ofList (Text.trim before)), after)
  else .ok (none, here)

/-- The message that begins at a cursor, just after `<|start|>`, and the cursor after it. -/
def readMessage (index : Nat) (here : Cursor) : Except FormatError (Message × Cursor) :=
  let missing := FormatError.headerWithoutMessage index here.offset
  match here.cutAt? Token.afterRole with
  | none => .error missing
  | some (before, token, here₁) =>
      let role := Text.trim before
      if role.isEmpty then .error (.missingRole index here.offset)
      else do
        let (header, token, here₂) ← readHeader missing index token here₁
        let (contentType, here₃) ← readContentType missing token here₂
        match here₃.cutAt? Token.terminators with
        | none => .error (.missingTerminator index here₃.offset)
        | some (raw, terminator, here₄) =>
            let content ← readContent index contentType raw
            return (⟨String.ofList role, header.channel, header.recipient, contentType, content,
              some (terminationOf terminator)⟩, here₄)

/-- The messages from a cursor on, the first of which has the number `index`. Every message takes
characters, so there are fewer than `fuel` of them when the text has fewer characters. -/
def parseFrom : (fuel index : Nat) → Cursor → Except FormatError (List Message)
  | 0, _, _ => .ok []
  | fuel + 1, index, here =>
      match here.cutAt? [.start] with
      | none => .ok []
      | some (_, _, header) =>
          match readMessage index header with
          | .error e => .error e
          | .ok (m, after) =>
              match parseFrom fuel (index + 1) after with
              | .error e => .error e
              | .ok rest => .ok (m :: rest)

/-- The messages of a text given as characters. -/
def parseChars (cs : List Char) : Except FormatError (List Message) :=
  parseFrom (cs.length + 1) 0 ⟨cs, 0⟩

/-- The messages of a text. A text without `<|start|>` has none. -/
def parse (text : String) : Except FormatError (List Message) := parseChars text.toList

end Dialogue.Wire
