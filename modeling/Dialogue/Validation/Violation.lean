import Dialogue.Failure

/-!
# Violations

A violation is a problem of an envelope, and of one of its messages unless it concerns the whole.
Each problem belongs to one rule, and each rule is of one severity: an error always counts, a
warning only if warnings are to fail.
-/
namespace Dialogue

inductive Severity where
  | error
  | warning
  deriving Repr, DecidableEq

inductive Rule where
  | envelopeShape
  | messageRole
  | terminationRole
  | contentType
  | assistantChannel
  | singleTermination
  deriving Repr, DecidableEq

namespace Rule

/-- The rules in the order in which they are checked. -/
def all : List Rule :=
  [envelopeShape, messageRole, terminationRole, contentType, assistantChannel, singleTermination]

def name : Rule → String
  | envelopeShape => "envelope-shape"
  | messageRole => "message-role"
  | terminationRole => "termination-role"
  | contentType => "content-type"
  | assistantChannel => "assistant-channel"
  | singleTermination => "single-termination"

def description : Rule → String
  | envelopeShape => "HRFVersion must be set and messages must not be empty"
  | messageRole => "Messages must have a non-blank role"
  | terminationRole => "Only assistant messages may carry a termination"
  | contentType => "Content must match its declared content type"
  | assistantChannel => "Assistant messages must carry analysis, commentary or final channel"
  | singleTermination => "At most one message should carry a termination"

def severity : Rule → Severity
  | singleTermination => .warning
  | _ => .error

end Rule

/-- What is wrong with an envelope or a message. -/
inductive Problem where
  | versionMissing
  | messagesMissing
  | roleMissing
  | terminationByOther (role : String)
  | contentNotText
  | unknownContentType (contentType : String)
  | scriptNotObject
  | scriptRefused (failure : Failure)
  | scriptUnreadable (mismatch : Json.Mismatch)
  | channelMissing
  | manyTerminations (count : Nat)
  deriving DecidableEq

namespace Problem

def rule : Problem → Rule
  | versionMissing => .envelopeShape
  | messagesMissing => .envelopeShape
  | roleMissing => .messageRole
  | terminationByOther _ => .terminationRole
  | contentNotText => .contentType
  | unknownContentType _ => .contentType
  | scriptNotObject => .contentType
  | scriptRefused _ => .contentType
  | scriptUnreadable _ => .contentType
  | channelMissing => .assistantChannel
  | manyTerminations _ => .singleTermination

def message : Problem → String
  | versionMissing => "HRFVersion is required"
  | messagesMissing => "envelope must contain at least one message"
  | roleMissing => "role is required"
  | terminationByOther role =>
      "termination is only allowed on assistant messages (role '" ++ role ++ "')"
  | contentNotText => "content must be a string when no contentType is declared"
  | unknownContentType contentType =>
      "contentType '" ++ contentType ++ "' is not one of 'json', 'harmony-script'"
  | scriptNotObject => "harmony-script content must be a JSON object"
  | scriptRefused failure => failure.message ++ ": " ++ "; ".intercalate failure.lines
  | scriptUnreadable mismatch => "invalid script step: " ++ mismatch.message
  | channelMissing => "assistant message must have channel analysis, commentary or final"
  | manyTerminations count =>
      toString count ++ " messages carry a termination marker; expected at most one"

end Problem

structure Violation where
  /-- The number of the message, unless the violation concerns the whole envelope. -/
  index : Option Nat
  problem : Problem
  deriving DecidableEq

namespace Violation

def rule (v : Violation) : Rule := v.problem.rule

def severity (v : Violation) : Severity := v.rule.severity

/-- The violation in one line. -/
def display (v : Violation) : String :=
  (match v.index with
    | some i => "messages[" ++ toString i ++ "]: "
    | none => "") ++
    (match v.severity with
      | .warning => "warning: "
      | .error => "") ++
    v.problem.message ++ " [" ++ v.rule.name ++ "]"

end Violation

end Dialogue
