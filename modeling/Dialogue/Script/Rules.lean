import Dialogue.Script.Basic
import Dialogue.Text.Blank

/-!
# What a step has to satisfy

Each kind of step has rules of its own, checked in a fixed order and stopping at the first that is
broken. `Step.check` looks at one step, `Script.validate` at all of them, a step before its branches
and earlier steps first.
-/
namespace Dialogue

/-- The rule that a step breaks. -/
inductive StepError where
  | emptyOutput
  | blankOutputName
  | blankOutputExpression (name : String)
  | invalidRecipient (recipient : String)
  | toolChannel (channel : String)
  | blankSaveAs
  | blankCondition
  | assistantChannel (channel : String)
  | conflictingContent
  deriving Repr, DecidableEq

namespace StepError

def message : StepError → String
  | emptyOutput => "extract_input: output must map at least one variable"
  | blankOutputName => "extract_input: output contains a blank variable name"
  | blankOutputExpression name => "extract_input: expression for '" ++ name ++ "' is blank"
  | invalidRecipient recipient =>
      "tool_call: recipient '" ++ recipient ++ "' must have the form 'plugin.function'"
  | toolChannel channel => "tool_call: channel must be 'commentary', got '" ++ channel ++ "'"
  | blankSaveAs => "tool_call: save_as must name a variable"
  | blankCondition => "if: condition is blank"
  | assistantChannel channel =>
      "assistant_message: channel must be 'analysis' or 'final', got '" ++ channel ++ "'"
  | conflictingContent => "assistant_message: only one of content and content_template may be set"

end StepError

/-- The text before and after the last point. -/
def splitLastPoint? : List Char → Option (List Char × List Char)
  | [] => none
  | c :: cs =>
      match splitLastPoint? cs with
      | some (before, after) => some (c :: before, after)
      | none => if c = '.' then some ([], cs) else none

/-- The namespace and the function that a recipient names: the parts around its last point, once the
blanks at its ends are gone. Both have to show something. -/
def splitRecipient? (recipient : String) : Option (String × String) :=
  match splitLastPoint? (Text.trim recipient.toList) with
  | none => none
  | some (space, function) =>
      if space.all Text.isBlank || function.all Text.isBlank then none
      else some (String.ofList space, String.ofList function)

/-- Text that says something: not blank, and more than a single point. -/
def isMaterial (text : String) : Bool :=
  let trimmed := Text.trim text.toList
  !trimmed.isEmpty && trimmed != ['.']

/-- The two channels on which a script may speak. -/
inductive SpeechChannel where
  | analysis
  | final
  deriving Repr, DecidableEq

def Utterance.speechChannel? (u : Utterance) : Option SpeechChannel :=
  if u.channel = "analysis" then some .analysis
  else if u.channel = "final" then some .final
  else none

namespace Step

/-- The first entry with a blank name or a blank expression. -/
def checkOutput : Entries String → Except StepError Unit
  | [] => .ok ()
  | (name, expression) :: rest =>
      if Text.showsNothing name then .error .blankOutputName
      else if Text.showsNothing expression then .error (.blankOutputExpression name)
      else checkOutput rest

def checkTool (call : ToolCall) : Except StepError Unit :=
  if (splitRecipient? call.recipient).isNone then .error (.invalidRecipient call.recipient)
  else if call.channel ≠ "commentary" then .error (.toolChannel call.channel)
  else if Text.showsNothing call.saveAs then .error .blankSaveAs
  else .ok ()

def checkUtterance (u : Utterance) : Except StepError Unit :=
  if u.speechChannel?.isNone then .error (.assistantChannel u.channel)
  else if u.content.any isMaterial && u.template.any isMaterial then .error .conflictingContent
  else .ok ()

/-- The rules of one step, without those inside its branches. -/
def check : Step → Except StepError Unit
  | extract output => if output.isEmpty then .error .emptyOutput else checkOutput output
  | tool call => checkTool call
  | branch condition _ _ =>
      if Text.showsNothing condition then .error .blankCondition else .ok ()
  | say utterance => checkUtterance utterance
  | halt => .ok ()

mutual

/-- The rules of a step and of every step inside its branches. -/
def validate : Step → Except StepError Unit
  | .branch condition onTrue onFalse =>
      match check (.branch condition [] []) with
      | .error e => .error e
      | .ok _ =>
          match validateAll onTrue with
          | .error e => .error e
          | .ok _ => validateAll onFalse
  | .extract output => check (.extract output)
  | .tool call => check (.tool call)
  | .say utterance => check (.say utterance)
  | .halt => .ok ()
termination_by structural s => s

def validateAll : List Step → Except StepError Unit
  | [] => .ok ()
  | s :: rest =>
      match validate s with
      | .error e => .error e
      | .ok _ => validateAll rest
termination_by structural steps => steps

end

end Step

/-- The rules of every step of a script. -/
def Script.validate (script : Script) : Except StepError Unit := Step.validateAll script.steps

end Dialogue
