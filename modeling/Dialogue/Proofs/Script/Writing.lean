import Dialogue.Message
import Dialogue.Proofs.Entries
import Dialogue.Script.Codec
import Mathlib.Data.List.Forall2

/-!
# Values that write scripts

`Step.WrittenAs` says which values write a step, whether it passes its rules or not: objects that
name the kind of the step and hold its parts, with any other fields beside them. The value that a
step is written as is one of them.
-/
namespace Dialogue

open Entries (get? Ascending)

/-- The fields hold the parts of a call; the arguments may be left out. -/
structure ToolCall.HeldBy (call : ToolCall) (fields : Fields) : Prop where
  recipient : get? "recipient" fields = some (.str call.recipient)
  channel : get? "channel" fields = some (.str call.channel)
  args : (get? "args" fields).getD (.obj []) = .obj call.args
  saveAs : get? "save_as" fields = some (.str call.saveAs)

/-- The fields hold the parts of an utterance; its texts may be left out. -/
structure Utterance.HeldBy (u : Utterance) (fields : Fields) : Prop where
  channel : get? "channel" fields = some (.str u.channel)
  content : (get? "content" fields).getD .null = Message.ofOption u.content
  template : (get? "content_template" fields).getD .null = Message.ofOption u.template

namespace Step

/-- The fields are in order, and one of them names the kind. -/
structure Tagged (kind : String) (fields : Fields) : Prop where
  ascending : Ascending fields
  kind : get? kindKey fields = some (.str kind)

/-- The value writes the step. -/
inductive WrittenAs : Step → Json → Prop
  | extract {output : Entries String} {fields : Fields} (h : Tagged "extract_input" fields)
      (ho : get? "output" fields = some (.obj (textFields output))) :
      WrittenAs (.extract output) (.obj fields)
  | tool {call : ToolCall} {fields : Fields} (h : Tagged "tool_call" fields)
      (hc : call.HeldBy fields) : WrittenAs (.tool call) (.obj fields)
  | branch {condition : String} {onTrue onFalse : List Step} {fields : Fields}
      {itemsTrue itemsFalse : List Json} (h : Tagged "if" fields)
      (hc : get? "condition" fields = some (.str condition))
      (ht : (get? "then" fields).getD (.arr []) = .arr itemsTrue)
      (hf : (get? "else" fields).getD (.arr []) = .arr itemsFalse)
      (hts : List.Forall₂ WrittenAs onTrue itemsTrue)
      (hfs : List.Forall₂ WrittenAs onFalse itemsFalse) :
      WrittenAs (.branch condition onTrue onFalse) (.obj fields)
  | say {u : Utterance} {fields : Fields} (h : Tagged "assistant_message" fields)
      (hu : u.HeldBy fields) : WrittenAs (.say u) (.obj fields)
  | halt {fields : Fields} (h : Tagged "halt" fields) : WrittenAs .halt (.obj fields)

theorem WrittenAs.exists_fields {s : Step} {j : Json} (h : s.WrittenAs j) :
    ∃ fields, j = .obj fields := by
  cases h <;> exact ⟨_, rfl⟩

end Step

inductive Script.WrittenAs (script : Script) : Json → Prop
  | intro {fields : Fields} {items : List Json} (h : Ascending fields)
      (hv : (get? "vars" fields).getD .null = script.vars.elim .null .obj)
      (hs : get? "steps" fields = some (.arr items))
      (hsteps : List.Forall₂ Step.WrittenAs script.steps items) : WrittenAs script (.obj fields)

namespace Step

mutual

theorem writtenAs_toJson (s : Step) : s.WrittenAs s.toJson := by
  cases s with
  | extract output =>
      have hkeys : ["output", "type"].Pairwise (· < ·) := by decide
      exact .extract ⟨Entries.ascending_of_keys hkeys, rfl⟩ rfl
  | tool call =>
      have hkeys : ["args", "channel", "recipient", "save_as", "type"].Pairwise (· < ·) := by decide
      exact .tool ⟨Entries.ascending_of_keys hkeys, rfl⟩ ⟨rfl, rfl, rfl, rfl⟩
  | branch condition onTrue onFalse =>
      have hkeys : ["condition", "else", "then", "type"].Pairwise (· < ·) := by decide
      exact .branch ⟨Entries.ascending_of_keys hkeys, rfl⟩ rfl rfl rfl (writtenAs_toJsonAll onTrue)
        (writtenAs_toJsonAll onFalse)
  | say u =>
      have hkeys : ["channel", "content", "content_template", "type"].Pairwise (· < ·) := by decide
      exact .say ⟨Entries.ascending_of_keys hkeys, rfl⟩ ⟨rfl, rfl, rfl⟩
  | halt => exact .halt ⟨List.pairwise_singleton _ _, rfl⟩
termination_by structural s

theorem writtenAs_toJsonAll (steps : List Step) :
    List.Forall₂ WrittenAs steps (toJsonAll steps) := by
  cases steps with
  | nil => exact .nil
  | cons s rest => exact .cons (writtenAs_toJson s) (writtenAs_toJsonAll rest)
termination_by structural steps

end

end Step
end Dialogue
