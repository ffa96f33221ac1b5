import Dialogue.Proofs.Run.Walk
import Dialogue.Run.Script

/-!
# Worlds that ignore logs

A chat model is shown the conversation so far, and it may keep or forget it. A world ignores logs
if none of its answers tells which logs it was shown: it cannot be told from itself by any
sequence of requests, whatever logs stand in them. A model whose replies do not depend on the logs
makes such a world together with any provider of tools.

Contexts that differ in their logs alone are `Context.Alike`: nothing that a run computes from a
context, but the log that it shows to the model, tells them apart.
-/
namespace Dialogue

variable {σ : Type}

namespace Collaborators

/-- The result of a call, if there is a tool of that name. The arguments depend on the parameters
that it declares. -/
def call (c : Collaborators σ) (space function : String) (args : List Parameter → Fields)
    (world : σ) : Option (Except ToolError Json) × σ :=
  match c.resolve space function world with
  | (none, world) => (none, world)
  | (some tool, world) =>
      let outcome := tool.invoke (args tool.parameters) world
      (some outcome.1, outcome.2)

/-- Related worlds answer alike, whatever logs they are shown, and stay related. -/
structure Blind (c : Collaborators σ) (R : σ → σ → Prop) : Prop where
  reply {w v : σ} (h : R w v) (log log' : List ChatTurn) :
    (c.complete log w).1 = (c.complete log' v).1
  after_reply {w v : σ} (h : R w v) (log log' : List ChatTurn) :
    R (c.complete log w).2 (c.complete log' v).2
  result {w v : σ} (h : R w v) (space function : String) (args : List Parameter → Fields) :
    (c.call space function args w).1 = (c.call space function args v).1
  after_result {w v : σ} (h : R w v) (space function : String)
    (args : List Parameter → Fields) :
    R (c.call space function args w).2 (c.call space function args v).2

/-- No answer of the world, now or later, depends on the logs that it is shown. -/
def IgnoresLogs (c : Collaborators σ) (world : σ) : Prop := ∃ R, c.Blind R ∧ R world world

end Collaborators

/-- What finds tools, with states of its own. -/
abbrev ToolSource (τ : Type) := (space function : String) → τ → Option (Tool τ) × τ

/-- What replies to conversations, with states of its own. -/
abbrev ChatModel (γ : Type) := List ChatTurn → γ → Except String String × γ

namespace ChatModel

def replies {γ : Type} (chat : ChatModel γ) : List (List ChatTurn) → γ → List (Except String String)
  | [], _ => []
  | log :: logs, state => (chat log state).1 :: replies chat logs (chat log state).2

/-- The reply in each place is the same whatever conversations are shown. -/
def IgnoresLogs {γ : Type} (chat : ChatModel γ) (state : γ) : Prop :=
  ∀ logs logs' : List (List ChatTurn), logs.length = logs'.length →
    chat.replies logs state = chat.replies logs' state

end ChatModel

def Tool.inFront {τ : Type} (γ : Type) (tool : Tool τ) : Tool (τ × γ) where
  parameters := tool.parameters
  invoke args world :=
    let (result, after) := tool.invoke args world.1
    (result, after, world.2)

/-- The world of tools and a model that have nothing in common; a run is never told to stop. -/
def Collaborators.beside {τ γ : Type} (tools : ToolSource τ) (chat : ChatModel γ) :
    Collaborators (τ × γ) where
  complete log world :=
    let (reply, after) := chat log world.2
    (reply, world.1, after)
  resolve space function world :=
    let (found, after) := tools space function world.1
    (found.map (Tool.inFront γ), after, world.2)
  cancelled _ := false

theorem Collaborators.beside_call {τ γ : Type} (tools : ToolSource τ) (chat : ChatModel γ)
    (space function : String) (args : List Parameter → Fields) (world : τ) :
    ∃ answer after, ∀ state : γ,
      (beside tools chat).call space function args (world, state) = (answer, after, state) := by
  unfold call beside
  dsimp only
  rcases tools space function world with ⟨_ | tool, after⟩
  · exact ⟨none, after, fun _ => rfl⟩
  · let outcome := tool.invoke (args tool.parameters) after
    exact ⟨some outcome.1, outcome.2, fun _ => rfl⟩

/-- Any tools make a world that ignores logs with a model whose replies do. -/
theorem Collaborators.beside_ignoresLogs {τ γ : Type} (tools : ToolSource τ) {chat : ChatModel γ}
    {state : γ} (h : chat.IgnoresLogs state) (world : τ) :
    (beside tools chat).IgnoresLogs (world, state) := by
  refine ⟨fun w v => w.1 = v.1 ∧ ∀ logs logs' : List (List ChatTurn),
    logs.length = logs'.length → chat.replies logs w.2 = chat.replies logs' v.2, ?_, rfl, h⟩
  constructor
  · rintro w v ⟨-, hreplies⟩ log log'
    have hone := hreplies [log] [log'] rfl
    exact (List.cons.inj hone).1
  · rintro w v ⟨hworld, hreplies⟩ log log'
    -- The replies from the second on, once these logs are put in front.
    refine ⟨hworld, fun logs logs' hlen => ?_⟩
    have hmore := hreplies (log :: logs) (log' :: logs') (congrArg Nat.succ hlen)
    exact (List.cons.inj hmore).2
  · rintro ⟨w, state⟩ ⟨_, state'⟩ ⟨rfl, -⟩ space function args
    obtain ⟨answer, after, hcall⟩ := beside_call tools chat space function args w
    rw [hcall, hcall]
  · rintro ⟨w, state⟩ ⟨_, state'⟩ ⟨rfl, hreplies⟩ space function args
    obtain ⟨answer, after, hcall⟩ := beside_call tools chat space function args w
    rw [hcall, hcall]
    exact ⟨rfl, hreplies⟩

/-- The contexts differ in their logs alone. -/
structure Context.Alike (a b : Context) : Prop where
  vars : a.vars = b.vars
  input : a.input = b.input
  finalText : a.finalText = b.finalText

namespace Context.Alike
variable {a b : Context}

theorem resolve (h : a.Alike b) (root : Root) (segments : List String) :
    Expr.resolve a root segments = Expr.resolve b root segments := by
  cases root <;> cases segments <;> simp only [Expr.resolve, h.vars, h.input]

theorem evaluateExpr (h : a.Alike b) (e : Expr) : e.evaluate a = e.evaluate b := by
  induction e with
  | path root segments => exact h.resolve root segments
  | len inner ih => rw [Expr.evaluate, Expr.evaluate, ih]
  | map source property ih => rw [Expr.evaluate, Expr.evaluate, ih]
  | literal text => rfl

theorem evaluate (h : a.Alike b) (source : String) : a.evaluate source = b.evaluate source :=
  h.evaluateExpr (.ofText source)

theorem holds (h : a.Alike b) (source : String) : a.holds source = b.holds source := by
  rw [Context.holds, Context.holds]
  cases Condition.ofText source <;> simp only [Condition.evaluate, h.evaluateExpr]

theorem render (h : a.Alike b) (template : String) : a.render template = b.render template := by
  have hfill (piece : Piece) : Template.fill a piece = Template.fill b piece := by
    cases piece with
    | char c => rfl
    | hole root segments => rw [Template.fill, Template.fill, h.resolve]
  rw [Context.render, Context.render, funext hfill]

theorem preparedArgs (h : a.Alike b) (call : ToolCall) :
    call.preparedArgs a = call.preparedArgs b := by
  have hargument (j : Json) : a.argument j = b.argument j := by
    unfold Context.argument
    cases j <;> simp only [h.evaluate]
  funext parameters
  rw [ToolCall.preparedArgs, ToolCall.preparedArgs, ToolCall.evaluatedArgs, ToolCall.evaluatedArgs]
  simp only [hargument]

theorem text (h : a.Alike b) (u : Utterance) : u.text a = u.text b := by
  rw [Utterance.text, Utterance.text]
  cases u.template <;> simp only [h.render]

theorem bind (h : a.Alike b) (name : String) (value : Json) :
    (a.bind name value).Alike (b.bind name value) :=
  ⟨congrArg (·.set name value) h.vars, h.input, h.finalText⟩

theorem say (h : a.Alike b) (turn turn' : ChatTurn) : (a.say turn).Alike (b.say turn') :=
  ⟨h.vars, h.input, h.finalText⟩

theorem say_left (h : a.Alike b) (turn : ChatTurn) : (a.say turn).Alike b :=
  ⟨h.vars, h.input, h.finalText⟩

theorem withText (h : a.Alike b) (text : String) :
    ({ a with finalText := text } : Context).Alike { b with finalText := text } :=
  ⟨h.vars, h.input, rfl⟩

theorem bindAll (h : a.Alike b) (values : List (String × Json)) :
    (values.foldl (fun after (name, value) => after.bind name value) a).Alike
      (values.foldl (fun after (name, value) => after.bind name value) b) := by
  induction values generalizing a b with
  | nil => exact h
  | cons e values ih => exact ih (h.bind e.1 e.2)

theorem extract (h : a.Alike b) (output : Entries String) :
    (a.extract output).Alike (b.extract output) := by
  rw [Context.extract, Context.extract]
  simp only [h.evaluate]
  exact h.bindAll _

end Context.Alike

/-- The same comes of both, and they leave contexts that are alike and related worlds. -/
structure Effect.Alike {α : Type} (R : σ → σ → Prop) (e e' : Effect σ α) : Prop where
  result : e.result = e'.result
  ctx : e.ctx.Alike e'.ctx
  world : R e.world e'.world

section
variable {c : Collaborators σ} {R : σ → σ → Prop} {a b : Context} {w v : σ}

theorem Effect.Alike.map {α β : Type} {e e' : Effect σ α} (h : e.Alike R e') (f : α → β) :
    (e.map f).Alike R (e'.map f) := ⟨congrArg (Except.map f) h.result, h.ctx, h.world⟩

theorem ToolCall.perform_eq_call (call : ToolCall) (ctx : Context) (world : σ) :
    call.perform c ctx world =
      match splitRecipient? call.recipient with
      | none => ⟨.error (.invalidRecipient call.recipient), ctx, world⟩
      | some (space, function) =>
          match c.call space function (call.preparedArgs ctx) world with
          | (none, world) => ⟨.error (.toolNotFound call.recipient), ctx, world⟩
          | (some (.error e), world) => ⟨.error (e.asRunError call.recipient), ctx, world⟩
          | (some (.ok result), world) => ⟨.ok (), call.record result ctx, world⟩ := by
  rw [perform]
  cases splitRecipient? call.recipient with
  | none => rfl
  | some recipient =>
      obtain ⟨space, function⟩ := recipient
      dsimp only
      rw [Collaborators.call]
      rcases c.resolve space function world with ⟨_ | tool, world'⟩
      · rfl
      · dsimp only
        generalize tool.invoke (call.preparedArgs ctx tool.parameters) world' = outcome
        rcases outcome with ⟨_ | result, world''⟩
        · rfl
        · rfl

theorem ToolCall.perform_alike (hb : c.Blind R) (h : a.Alike b) (hw : R w v) (call : ToolCall) :
    (call.perform c a w).Alike R (call.perform c b v) := by
  rw [perform_eq_call, perform_eq_call, h.preparedArgs]
  cases splitRecipient? call.recipient with
  | none => exact ⟨rfl, h, hw⟩
  | some recipient =>
      obtain ⟨space, function⟩ := recipient
      have hresult := hb.result hw space function (call.preparedArgs b)
      have hafter := hb.after_result hw space function (call.preparedArgs b)
      dsimp only
      rcases hx : c.call space function (call.preparedArgs b) w with ⟨x, w'⟩
      rcases hy : c.call space function (call.preparedArgs b) v with ⟨y, v'⟩
      rw [hx, hy] at hresult hafter
      cases hresult
      rcases x with _ | e | result
      · exact ⟨rfl, h, hafter⟩
      · exact ⟨rfl, h, hafter⟩
      · exact ⟨rfl, (h.say _ _).bind _ _, hafter⟩

theorem Context.complete_alike (hb : c.Blind R) (h : a.Alike b) (hw : R w v) :
    (a.complete c w).Alike R (b.complete c v) := by
  have hreply := hb.reply hw a.log b.log
  have hafter := hb.after_reply hw a.log b.log
  rw [complete, complete]
  rcases hx : c.complete a.log w with ⟨x, w'⟩
  rcases hy : c.complete b.log v with ⟨y, v'⟩
  rw [hx, hy] at hreply hafter
  cases hreply
  cases x with
  | error message => exact ⟨rfl, h, hafter⟩
  | ok reply => exact ⟨rfl, h.withText reply, hafter⟩

theorem Utterance.perform_alike (hb : c.Blind R) (h : a.Alike b) (hw : R w v) (u : Utterance) :
    (u.perform c a w).Alike R (u.perform c b v) := by
  unfold perform
  rw [h.text]
  dsimp only
  split
  · split
    · exact ⟨rfl, h.withText _, hw⟩
    · exact Context.complete_alike hb h hw
  · split
    · exact ⟨rfl, h, hw⟩
    · exact ⟨rfl, h.say _ _, hw⟩

end

end Dialogue
