import Dialogue.Proofs.Run.Walk

/-!
# What a run asks of its collaborators

A world can be watched: it then keeps a list of what was asked of it, in order, and answers as it
did before. Two runs that end in the same watched world have asked for the same things in the same
order. Watching changes nothing else about a run.

A chat model is asked by a step only where a text on the final channel says nothing, and is shown
the conversation as it then is.
-/
namespace Dialogue

variable {σ : Type}

/-- Something that a run asks of its collaborators. -/
inductive Call where
  | complete (log : List ChatTurn)
  | resolve (space function : String)
  | invoke (space function : String) (args : Fields)
  deriving Repr, DecidableEq

/-- The conversation that a chat model is shown. -/
def Call.log? : Call → Option (List ChatTurn)
  | .complete log => some log
  | _ => none

/-- A text on the final channel that says nothing. -/
def Utterance.asks (u : Utterance) (ctx : Context) : Bool :=
  u.speechChannel? == some .final && !isMaterial (u.text ctx)

def Step.asks (ctx : Context) : Step → Bool
  | .say u => u.asks ctx
  | _ => false

/-- The tool, found under this name, with its calls kept. -/
def Tool.watched (space function : String) (t : Tool σ) : Tool (σ × List Call) where
  parameters := t.parameters
  invoke args world :=
    let (result, after) := t.invoke args world.1
    (result, after, world.2 ++ [.invoke space function args])

/-- The same world, with all calls kept. -/
def Collaborators.watched (c : Collaborators σ) : Collaborators (σ × List Call) where
  complete log world :=
    let (reply, after) := c.complete log world.1
    (reply, after, world.2 ++ [.complete log])
  resolve space function world :=
    let (found, after) := c.resolve space function world.1
    (found.map (Tool.watched space function), after, world.2 ++ [.resolve space function])
  cancelled world := c.cancelled world.1
  interrupted := c.interrupted

def Effect.watched {α : Type} (e : Effect σ α) (calls : List Call) : Effect (σ × List Call) α :=
  ⟨e.result, e.ctx, e.world, calls⟩

def Stop.unwatched (stop : Stop (σ × List Call)) : Stop σ :=
  ⟨stop.error, stop.ctx, stop.world.1⟩

variable {c : Collaborators σ}

theorem Collaborators.watched_stopsAt (turn : Nat) (world : σ) (calls : List Call) :
    c.watched.stopsAt turn (world, calls) = c.stopsAt turn world := rfl

theorem Tool.watched_invoke (space function : String) (t : Tool σ) (args : Fields) (world : σ)
    (calls : List Call) :
    (t.watched space function).invoke args (world, calls) =
      ((t.invoke args world).1, (t.invoke args world).2,
        calls ++ [.invoke space function args]) := rfl

theorem Collaborators.watched_complete (log : List ChatTurn) (world : σ) (calls : List Call) :
    c.watched.complete log (world, calls) =
      ((c.complete log world).1, (c.complete log world).2, calls ++ [.complete log]) := rfl

theorem Collaborators.watched_resolve (space function : String) (world : σ)
    (calls : List Call) :
    c.watched.resolve space function (world, calls) =
      ((c.resolve space function world).1.map (Tool.watched space function),
        (c.resolve space function world).2, calls ++ [.resolve space function]) := rfl

/-- What a call of a tool asks of the world: for the tool, and to invoke it if there is one. -/
def ToolCall.calls (call : ToolCall) (c : Collaborators σ) (ctx : Context) (world : σ) :
    List Call :=
  match splitRecipient? call.recipient with
  | none => []
  | some (space, function) =>
      match (c.resolve space function world).1 with
      | none => [.resolve space function]
      | some tool =>
          [.resolve space function,
            .invoke space function (call.preparedArgs ctx tool.parameters)]

/-- What a text asks of the world: a reply, where it says nothing on the final channel. -/
def Utterance.calls (u : Utterance) (ctx : Context) : List Call :=
  if u.asks ctx then [.complete ctx.log] else []

def Step.calls (c : Collaborators σ) (ctx : Context) (world : σ) : Step → List Call
  | .tool call => call.calls c ctx world
  | .say u => u.calls ctx
  | .extract _ | .branch _ _ _ | .halt => []

theorem ToolCall.perform_watched (call : ToolCall) (ctx : Context) (world : σ)
    (calls : List Call) :
    call.perform c.watched ctx (world, calls) =
      (call.perform c ctx world).watched (calls ++ call.calls c ctx world) := by
  unfold perform ToolCall.calls
  cases splitRecipient? call.recipient with
  | none => simp only [Effect.watched, List.append_nil]
  | some recipient =>
      obtain ⟨space, function⟩ := recipient
      simp only [Collaborators.watched_resolve]
      rcases c.resolve space function world with ⟨_ | tool, world'⟩
      · rfl
      · have hp : (tool.watched space function).parameters = tool.parameters := rfl
        simp only [Option.map_some, hp, Tool.watched_invoke, List.append_assoc]
        rcases tool.invoke (call.preparedArgs ctx tool.parameters) world' with ⟨_ | result, world''⟩
        · rfl
        · rfl

theorem Context.complete_watched (ctx : Context) (world : σ) (calls : List Call) :
    ctx.complete c.watched (world, calls) =
      (ctx.complete c world).watched (calls ++ [.complete ctx.log]) := by
  unfold complete
  simp only [Collaborators.watched_complete]
  rcases c.complete ctx.log world with ⟨_ | reply, world'⟩
  · rfl
  · rfl

theorem Utterance.perform_watched (u : Utterance) (ctx : Context) (world : σ)
    (calls : List Call) :
    u.perform c.watched ctx (world, calls) =
      (u.perform c ctx world).watched (calls ++ u.calls ctx) := by
  unfold perform Utterance.calls asks
  dsimp only
  split
  · rename_i hfinal
    split
    · rename_i ht
      simp [ht, Effect.watched]
    · rename_i ht
      rw [Context.complete_watched]
      simp [hfinal, ht]
  · rename_i hother
    have hasks : (u.speechChannel? == some .final) = false := by
      rw [beq_eq_false_iff_ne]
      exact hother
    rw [hasks]
    simp only [Bool.false_and, Bool.false_eq_true, if_false, List.append_nil]
    split <;> rfl

namespace ToolCall
variable {call : ToolCall} {space function : String} {ctx : Context} {world between : σ}

theorem perform_of_missing (hs : splitRecipient? call.recipient = some (space, function))
    (hr : c.resolve space function world = (none, between)) :
    call.perform c ctx world = ⟨.error (.toolNotFound call.recipient), ctx, between⟩ := by
  simp only [perform, hs, hr]

theorem perform_of_failed (hs : splitRecipient? call.recipient = some (space, function))
    {tool : Tool σ} (hr : c.resolve space function world = (some tool, between)) {e : ToolError}
    {after : σ}
    (hi : tool.invoke (call.preparedArgs ctx tool.parameters) between = (.error e, after)) :
    call.perform c ctx world = ⟨.error (e.asRunError call.recipient), ctx, after⟩ := by
  simp only [perform, hs, hr, hi]

theorem perform_of_answered (hs : splitRecipient? call.recipient = some (space, function))
    {tool : Tool σ} (hr : c.resolve space function world = (some tool, between)) {result : Json}
    {after : σ}
    (hi : tool.invoke (call.preparedArgs ctx tool.parameters) between = (.ok result, after)) :
    call.perform c ctx world = ⟨.ok (), call.record result ctx, after⟩ := by
  simp only [perform, hs, hr, hi]

theorem calls_of_missing (hs : splitRecipient? call.recipient = some (space, function))
    (hr : c.resolve space function world = (none, between)) :
    call.calls c ctx world = [.resolve space function] := by
  simp only [ToolCall.calls, hs, hr]

theorem calls_of_found (hs : splitRecipient? call.recipient = some (space, function))
    {tool : Tool σ} (hr : c.resolve space function world = (some tool, between)) :
    call.calls c ctx world = [.resolve space function,
      .invoke space function (call.preparedArgs ctx tool.parameters)] := by
  simp only [ToolCall.calls, hs, hr]

end ToolCall

/-- A call of a tool asks for nothing, for the tool only, or for the tool and then to invoke it. -/
theorem ToolCall.calls_cases (call : ToolCall) (c : Collaborators σ) (ctx : Context) (world : σ) :
    call.calls c ctx world = [] ∨
      (∃ space function, call.calls c ctx world = [.resolve space function]) ∨
      ∃ space function args,
        call.calls c ctx world = [.resolve space function, .invoke space function args] := by
  rw [ToolCall.calls]
  cases splitRecipient? call.recipient with
  | none => exact .inl rfl
  | some recipient =>
      dsimp only
      cases (c.resolve recipient.1 recipient.2 world).1 with
      | none => exact .inr (.inl ⟨_, _, rfl⟩)
      | some tool => exact .inr (.inr ⟨_, _, _, rfl⟩)

/-- A chat model is asked by a step only where the step is a text that asks, and is then shown the
conversation as it is. -/
theorem Step.calls_log? (s : Step) (ctx : Context) (world : σ) :
    (s.calls c ctx world).filterMap Call.log? = if s.asks ctx then [ctx.log] else [] := by
  cases s with
  | tool call =>
      rw [calls]
      rcases call.calls_cases c ctx world with h | ⟨_, _, h⟩ | ⟨_, _, _, h⟩ <;>
        (rw [h]; rfl)
  | say u =>
      rw [calls, Utterance.calls, asks]
      split <;> rfl
  | extract output => rfl
  | branch condition onTrue onFalse => rfl
  | halt => rfl

theorem Step.follow_watched (steps : List Step) (ctx : Context) (world : σ) (calls : List Call) :
    (follow c.watched steps ctx (world, calls)).unwatched = follow c steps ctx world := by
  induction steps, ctx, world using follow.induct c generalizing calls with
  | case1 ctx world => rw [follow, follow, Stop.unwatched]
  | case2 rest ctx world => rw [follow, follow, Stop.unwatched]
  | case3 condition onTrue onFalse rest ctx world ih =>
      rw [follow, follow]
      exact ih calls
  | case4 output rest ctx world ih =>
      rw [follow, follow]
      exact ih calls
  | case5 call rest ctx world e after world' h =>
      rw [follow, follow, call.perform_watched, h, Effect.watched, Stop.unwatched]
  | case6 call rest ctx world _ after world' h ih =>
      rw [follow, follow, call.perform_watched, h]
      exact ih _
  | case7 u rest ctx world e after world' h =>
      rw [follow, follow, u.perform_watched, h, Effect.watched, Stop.unwatched]
  | case8 u rest ctx world _ after world' h ih =>
      rw [follow, follow, u.perform_watched, h]
      exact ih _

/-- A walk that is never told to stop ends as the structured semantics does, with the same error,
context and world, and has asked for the same things in the same order. -/
theorem walk_refines_follow (hc : ∀ turn world, c.stopsAt turn world = false) (steps : List Step)
    (ctx : Context) (world : σ) :
    Machine.walk c (.start steps ctx world) = Step.follow c steps ctx world ∧
      Machine.walk c.watched (.start steps ctx (world, [])) =
        Step.follow c.watched steps ctx (world, []) ∧
      (Step.follow c.watched steps ctx (world, [])).unwatched = Step.follow c steps ctx world := by
  -- A watched world is a world, so the walk through it follows the same semantics.
  have hwatched : ∀ turn world, c.watched.stopsAt turn world = false :=
    fun turn world => hc turn world.1
  refine ⟨?_, ?_, Step.follow_watched steps ctx world []⟩
  · rw [Machine.walk_eq_follow hc, Machine.follow, Machine.steps_start]
    rfl
  · rw [Machine.walk_eq_follow hwatched, Machine.follow, Machine.steps_start]
    rfl

/-- A world whose tools all answer null. -/
def answeringNull : Collaborators Unit where
  complete _ world := (.ok "", world)
  resolve _ _ world := (some (.constant .null), world)
  cancelled _ := false

/-- A halt inside a branch of a branch, with steps behind all of them. -/
def haltInside : List Step :=
  [.branch "$vars.x" [.tool { recipient := "c.d" }]
      [.tool { recipient := "a.b", saveAs := "x" }, .branch "$vars.x" [] [.halt],
        .tool { recipient := "c.d" }],
    .tool { recipient := "c.d" }]

/-- Only the call in front of the halt is made. -/
theorem walk_haltInside :
    (∀ turn world, answeringNull.stopsAt turn world = false) ∧
      (Machine.walk answeringNull.watched (.start haltInside {} ((), []))).world.2 =
        [.resolve "a" "b", .invoke "a" "b" []] := by
  have hc : ∀ turn world, answeringNull.stopsAt turn world = false := fun _ _ => rfl
  refine ⟨hc, ?_⟩
  rw [(walk_refines_follow hc haltInside {} ()).2.1]
  let call : ToolCall := { recipient := "a.b", saveAs := "x" }
  have hbefore : ({} : Context).holds "$vars.x" = false := by decide +kernel
  have hafter : (call.record .null {}).holds "$vars.x" = false := by decide +kernel
  have hcall : call.perform answeringNull.watched {} ((), []) =
      ⟨.ok (), call.record .null {}, (), [.resolve "a" "b", .invoke "a" "b" []]⟩ := by
    have hs : splitRecipient? "a.b" = some ("a", "b") := by decide +kernel
    rw [ToolCall.perform, hs]
    rfl
  rw [haltInside, Step.follow, hbefore]
  simp only [Bool.false_eq_true, if_false, List.cons_append, List.nil_append]
  rw [Step.follow, hcall]
  dsimp only
  rw [Step.follow, hafter]
  simp only [Bool.false_eq_true, if_false, List.cons_append, List.nil_append]
  rw [Step.follow]

end Dialogue
