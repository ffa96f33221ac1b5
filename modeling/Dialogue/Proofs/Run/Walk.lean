import Dialogue.Run.Machine

/-!
# The walk as structured semantics

`Step.follow` says what a list of steps does without a stack: a branch is the chosen steps in front
of the others, and a halt forgets the others. The machine keeps a stack of lists instead. What is
left to do is the stack in one list, the innermost frame first; each turn of the machine follows one
step of that list, or drops an empty frame and changes nothing.

Cancelling is left out: the walk agrees with the semantics where it is never told to stop.
-/
namespace Dialogue

variable {σ : Type} {c : Collaborators σ}

namespace Step

theorem sizeAll_append (steps rest : List Step) :
    sizeAll (steps ++ rest) = sizeAll steps + sizeAll rest := by
  induction steps with
  | nil => simp [sizeAll]
  | cons s steps ih =>
      simp only [List.cons_append, sizeAll, ih]
      omega

theorem sizeAll_lt_cons (s : Step) (rest : List Step) : sizeAll rest < sizeAll (s :: rest) := by
  have hs := size_pos s
  rw [sizeAll]
  omega

theorem sizeAll_chosen_lt (condition : String) (onTrue onFalse rest : List Step) (holds : Bool) :
    sizeAll ((if holds then onTrue else onFalse) ++ rest) <
      sizeAll (branch condition onTrue onFalse :: rest) := by
  rw [sizeAll_append, sizeAll, size]
  cases holds
  · simp only [Bool.false_eq_true, if_false]
    omega
  · simp only [if_true]
    omega

/-- Do the steps in order, without a stack. -/
def follow (c : Collaborators σ) : List Step → Context → σ → Stop σ
  | [], ctx, world => ⟨none, ctx, world⟩
  | halt :: _, ctx, world => ⟨none, ctx, world⟩
  | branch condition onTrue onFalse :: rest, ctx, world =>
      follow c ((if ctx.holds condition then onTrue else onFalse) ++ rest) ctx world
  | extract output :: rest, ctx, world => follow c rest (ctx.extract output) world
  | tool call :: rest, ctx, world =>
      match call.perform c ctx world with
      | ⟨.error e, ctx, world⟩ => ⟨some e, ctx, world⟩
      | ⟨.ok _, ctx, world⟩ => follow c rest ctx world
  | say utterance :: rest, ctx, world =>
      match utterance.perform c ctx world with
      | ⟨.error e, ctx, world⟩ => ⟨some e, ctx, world⟩
      | ⟨.ok _, ctx, world⟩ => follow c rest ctx world
termination_by steps => sizeAll steps
decreasing_by
  · exact sizeAll_chosen_lt condition onTrue onFalse rest _
  all_goals exact sizeAll_lt_cons _ rest

/-- A step that is not a branch is done, and then the rest, unless it halts or fails; a branch puts
the chosen steps in front of the rest. -/
theorem follow_cons (s : Step) (rest : List Step) (ctx : Context) (world : σ) :
    follow c (s :: rest) ctx world =
      match s.dispatch c ctx world with
      | ⟨.error e, ctx, world⟩ => ⟨some e, ctx, world⟩
      | ⟨.ok .halt, ctx, world⟩ => ⟨none, ctx, world⟩
      | ⟨.ok .onward, ctx, world⟩ => follow c rest ctx world
      | ⟨.ok (.enter chosen), ctx, world⟩ => follow c (chosen ++ rest) ctx world := by
  cases s with
  | extract output => rw [follow, dispatch]
  | branch condition onTrue onFalse => rw [follow, dispatch]
  | halt => rw [follow, dispatch]
  | tool call =>
      rw [follow, dispatch]
      rcases call.perform c ctx world with ⟨_ | _, after, world'⟩ <;> rfl
  | say utterance =>
      rw [follow, dispatch]
      rcases utterance.perform c ctx world with ⟨_ | _, after, world'⟩ <;> rfl

end Step

namespace Machine

def steps (m : Machine σ) : List Step := m.frames.flatten

/-- What the machine has still to do, as structured semantics has it. -/
def follow (c : Collaborators σ) (m : Machine σ) : Stop σ := Step.follow c m.steps m.ctx m.world

theorem steps_start (steps : List Step) (ctx : Context) (world : σ) :
    (start steps ctx world).steps = steps := List.flatten_singleton

theorem follow_of_advance (hc : ∀ turn world, c.stopsAt turn world = false) (m : Machine σ) :
    m.follow c =
      match m.advance c with
      | .stopped stop => stop
      | .running next => next.follow c := by
  obtain ⟨frames, ctx, world, turn⟩ := m
  unfold advance
  simp only [hc, Bool.false_eq_true, if_false]
  cases frames with
  | nil => rw [follow, steps, List.flatten_nil, Step.follow]
  | cons frame frames =>
      cases frame with
      | nil => rfl
      | cons s rest =>
          rw [follow, steps, List.flatten_cons, List.cons_append, Step.follow_cons]
          dsimp only
          rcases s.dispatch c ctx world with ⟨_ | _ | chosen | _, after, world'⟩
          · rfl
          · rfl
          · simp only [follow, steps, List.flatten_cons]
          · rfl

/-- The walk from any stack follows the steps of its frames, the innermost first. -/
theorem walk_eq_follow (hc : ∀ turn world, c.stopsAt turn world = false) (m : Machine σ) :
    m.walk c = m.follow c := by
  induction m using walk.induct c with
  | case1 m stop h =>
      rw [walk, follow_of_advance hc, h]
  | case2 m next h ih =>
      rw [walk, follow_of_advance hc, h]
      exact ih

end Machine

end Dialogue
