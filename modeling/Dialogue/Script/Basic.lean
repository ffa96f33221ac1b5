import Dialogue.Json.Basic

/-!
# Scripts

A script is a list of steps and the variables it starts with. A step binds variables, calls a tool,
branches, emits assistant text, or halts; only branches hold further steps.

Every value of these types can be built, also steps that break the rules; the rules are in
`Dialogue.Script.Rules`.
-/
namespace Dialogue

/-- A call of a tool, whose result is bound to a variable. -/
structure ToolCall where
  recipient : String := ""
  channel : String := ""
  args : Fields := []
  saveAs : String := ""
  deriving Repr, DecidableEq

/-- Text of the assistant: as it stands, or from a template. -/
structure Utterance where
  channel : String := ""
  content : Option String := none
  template : Option String := none
  deriving Repr, DecidableEq

inductive Step where
  /-- Bind every name to the value of its expression. -/
  | extract (output : Entries String)
  | tool (call : ToolCall)
  | branch (condition : String) (onTrue onFalse : List Step)
  | say (utterance : Utterance)
  | halt
  deriving Repr, Inhabited

namespace Step

/-- The name of the kind of step. -/
def kind : Step → String
  | extract _ => "extract_input"
  | tool _ => "tool_call"
  | branch _ _ _ => "if"
  | say _ => "assistant_message"
  | halt => "halt"

mutual

/-- The number of steps in the tree, this one included. -/
def size : Step → Nat
  | .branch _ onTrue onFalse => sizeAll onTrue + sizeAll onFalse + 1
  | _ => 1
termination_by structural s => s

def sizeAll : List Step → Nat
  | [] => 0
  | s :: rest => size s + sizeAll rest
termination_by structural steps => steps

end

theorem size_pos (s : Step) : 0 < s.size := by
  cases s <;> simp [size]

mutual

/-- Steps are compared by structure. -/
def decEq : (s t : Step) → Decidable (s = t)
  | .extract x, t =>
      match t with
      | .extract y =>
          if h : x = y then isTrue (h ▸ rfl) else isFalse fun e => h (Step.extract.inj e)
      | .tool _ | .branch _ _ _ | .say _ | .halt => isFalse nofun
  | .tool x, t =>
      match t with
      | .tool y => if h : x = y then isTrue (h ▸ rfl) else isFalse fun e => h (Step.tool.inj e)
      | .extract _ | .branch _ _ _ | .say _ | .halt => isFalse nofun
  | .branch c xs ys, t =>
      match t with
      | .branch d zs ws =>
          if h : c = d then
            match decEqAll xs zs, decEqAll ys ws with
            | isTrue p, isTrue q => isTrue (h ▸ p ▸ q ▸ rfl)
            | isFalse p, _ => isFalse fun e => p (Step.branch.inj e).2.1
            | _, isFalse q => isFalse fun e => q (Step.branch.inj e).2.2
          else isFalse fun e => h (Step.branch.inj e).1
      | .extract _ | .tool _ | .say _ | .halt => isFalse nofun
  | .say x, t =>
      match t with
      | .say y => if h : x = y then isTrue (h ▸ rfl) else isFalse fun e => h (Step.say.inj e)
      | .extract _ | .tool _ | .branch _ _ _ | .halt => isFalse nofun
  | .halt, t =>
      match t with
      | .halt => isTrue rfl
      | .extract _ | .tool _ | .branch _ _ _ | .say _ => isFalse nofun
termination_by structural s => s

def decEqAll : (xs ys : List Step) → Decidable (xs = ys)
  | [], [] => isTrue rfl
  | [], _ :: _ => isFalse nofun
  | _ :: _, [] => isFalse nofun
  | s :: xs, t :: ys =>
      match decEq s t, decEqAll xs ys with
      | isTrue p, isTrue q => isTrue (p ▸ q ▸ rfl)
      | isFalse p, _ => isFalse fun e => p (List.cons.inj e).1
      | _, isFalse q => isFalse fun e => q (List.cons.inj e).2
termination_by structural xs => xs

end

instance : DecidableEq Step := decEq

end Step

structure Script where
  /-- The variables that a run starts with. -/
  vars : Option Fields := none
  steps : List Step := []
  deriving Repr, DecidableEq

end Dialogue
