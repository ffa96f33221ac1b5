import Dialogue.Condition
import Dialogue.Run.Basic
import Dialogue.Template

/-!
# One step of a run

What each kind of step does to the context. Whatever comes of a step, it leaves a context and a
world, also where it fails: what it wrote before that would be seen.
-/
namespace Dialogue

variable {σ : Type}

/-- What came of a part of a run, and the context and the world that it left. -/
structure Effect (σ α : Type) where
  result : Except RunError α
  ctx : Context
  world : σ

def Effect.map {α β : Type} (f : α → β) (e : Effect σ α) : Effect σ β :=
  ⟨e.result.map f, e.ctx, e.world⟩

/-- Bind every name to the value of its expression. All expressions are evaluated before any name is
bound. -/
def Context.extract (ctx : Context) (output : Entries String) : Context :=
  (output.map fun (name, source) => (name, ctx.evaluate source)).foldl
    (fun after (name, value) => after.bind name value) ctx

/-- What an argument stands for: a string that begins with `$` is evaluated. -/
def Context.argument (ctx : Context) : Json → Json
  | .str s => if s.toList.head? = some '$' then ctx.evaluate s else .str s
  | j => j

/-- The items between the commas of a text, trimmed, without those that show nothing. -/
def listedItems (joined : String) : List String :=
  (((Text.splitAt ',' joined.toList).map Text.trim).filter (!·.isEmpty)).map String.ofList

namespace Parameter

/-- Some parameter of that name takes a list of strings. -/
def takesStringList (parameters : List Parameter) (name : String) : Bool :=
  parameters.any fun p => p.name == name && p.kind == .stringList

/-- A text given where a list of strings is wanted becomes the list of its items. -/
def normalise (parameters : List Parameter) (name : String) : Json → Json
  | .str s => if takesStringList parameters name then .ofStrings (listedItems s) else .str s
  | j => j

end Parameter

namespace ToolCall

/-- The arguments with their expressions evaluated. -/
def evaluatedArgs (call : ToolCall) (ctx : Context) : Fields :=
  call.args.map fun (name, j) => (name, ctx.argument j)

/-- The arguments as a tool with these parameters is given them. -/
def preparedArgs (call : ToolCall) (ctx : Context) (parameters : List Parameter) : Fields :=
  (call.evaluatedArgs ctx).map fun (name, j) => (name, Parameter.normalise parameters name j)

/-- The context after a call with that result: the conversation and one variable know of it. -/
def record (call : ToolCall) (result : Json) (ctx : Context) : Context :=
  (ctx.say (.tool call.recipient result.compact)).bind call.saveAs result

/-- Find the tool, call it, and keep its result. -/
def perform (call : ToolCall) (c : Collaborators σ) (ctx : Context) (world : σ) : Effect σ Unit :=
  match splitRecipient? call.recipient with
  | none => ⟨.error (.invalidRecipient call.recipient), ctx, world⟩
  | some (space, function) =>
      match c.resolve space function world with
      | (none, world) => ⟨.error (.toolNotFound call.recipient), ctx, world⟩
      | (some tool, world) =>
          match tool.invoke (call.preparedArgs ctx tool.parameters) world with
          | (.error e, world) => ⟨.error (e.asRunError call.recipient), ctx, world⟩
          | (.ok result, world) => ⟨.ok (), call.record result ctx, world⟩

end ToolCall

/-- Ask the chat model for the text to end with. -/
def Context.complete (ctx : Context) (c : Collaborators σ) (world : σ) : Effect σ Unit :=
  match c.complete ctx.log world with
  | (.error message, world) => ⟨.error (.chatFailed message), ctx, world⟩
  | (.ok reply, world) => ⟨.ok (), { ctx with finalText := reply }, world⟩

namespace Utterance

/-- The text: a template comes before content that stands as it is. -/
def text (u : Utterance) (ctx : Context) : String :=
  match u.template with
  | some template => ctx.render template
  | none => u.content.getD ""

/-- Text on the final channel is what the run ends with, unless it says nothing: then the chat model
is asked. Text on any other channel joins the conversation, unless it is blank. -/
def perform (u : Utterance) (c : Collaborators σ) (ctx : Context) (world : σ) : Effect σ Unit :=
  let text := u.text ctx
  match u.speechChannel? with
  | some .final =>
      if isMaterial text then ⟨.ok (), { ctx with finalText := text }, world⟩
      else ctx.complete c world
  | _ =>
      if Text.showsNothing text then ⟨.ok (), ctx, world⟩
      else ⟨.ok (), ctx.say (.assistant text), world⟩

end Utterance

/-- What comes after a step. -/
inductive Flow where
  /-- The next step. -/
  | onward
  /-- The steps of a branch. -/
  | enter (branch : List Step)
  /-- Nothing more. -/
  | halt

/-- Do one step. -/
def Step.dispatch (c : Collaborators σ) (ctx : Context) (world : σ) : Step → Effect σ Flow
  | extract output => ⟨.ok .onward, ctx.extract output, world⟩
  | tool call => (call.perform c ctx world).map fun _ => .onward
  | branch condition onTrue onFalse =>
      ⟨.ok (.enter (if ctx.holds condition then onTrue else onFalse)), ctx, world⟩
  | say utterance => (utterance.perform c ctx world).map fun _ => .onward
  | halt => ⟨.ok .halt, ctx, world⟩

theorem Effect.map_onward_eq_ok_iff {e : Effect σ Unit} {flow : Flow} {ctx : Context} {world : σ} :
    e.map (fun _ => Flow.onward) = ⟨.ok flow, ctx, world⟩ ↔
      flow = .onward ∧ e = ⟨.ok (), ctx, world⟩ := by
  constructor
  · intro h
    obtain ⟨_ | _, _, _⟩ := e
    · cases h
    · cases h
      exact ⟨rfl, rfl⟩
  · rintro ⟨rfl, rfl⟩
    rfl

/-- A branch is entered only from a step that holds it, and nothing else is done. -/
theorem Step.dispatch_eq_enter {c : Collaborators σ} {ctx after : Context} {world world' : σ}
    {s : Step} {steps : List Step}
    (h : s.dispatch c ctx world = ⟨.ok (.enter steps), after, world'⟩) :
    (∃ condition onTrue onFalse, s = branch condition onTrue onFalse ∧
      steps = if ctx.holds condition then onTrue else onFalse) ∧ after = ctx ∧ world' = world := by
  cases s with
  | branch condition onTrue onFalse =>
      cases h
      exact ⟨⟨condition, onTrue, onFalse, rfl, rfl⟩, rfl, rfl⟩
  | extract output => cases h
  | halt => cases h
  | tool call => cases (Effect.map_onward_eq_ok_iff.1 h).1
  | say utterance => cases (Effect.map_onward_eq_ok_iff.1 h).1

end Dialogue
