import Dialogue.Proofs.Run.Trace
import Dialogue.Proofs.Script.Order

/-!
# What a completed step does

A step that leads on to a context does one of a few things: it binds names, keeps the result of a
call, sets the text to end with, adds a thought to the conversation, or leaves all as it is.
`Step.Does` has a constructor for each, with what was asked of the world. Other modules look at a
completed step through it.

The steps of a walk stand in the tree in the order in which they are begun: what is still to do,
listed in pre-order, loses at each completed step that step and perhaps others.
-/
namespace Dialogue

variable {σ : Type} {c : Collaborators σ}

theorem Context.extract_eq (ctx : Context) (output : Entries String) :
    ctx.extract output = { ctx with vars := (ctx.extract output).vars } := by
  have hbind (values : List (String × Json)) (ctx : Context) :
      let after := values.foldl (fun after e => after.bind e.1 e.2) ctx
      after = { ctx with vars := after.vars } := by
    induction values generalizing ctx with
    | nil => rfl
    | cons e values ih => exact ih (ctx.bind e.1 e.2)
  exact hbind _ ctx

namespace Step

/-- The step is done, and leads to this context and this world. -/
inductive Does (c : Collaborators σ) (ctx : Context) (world : σ) : Step → Context → σ → Prop
  | bound (output : Entries String) : Does c ctx world (.extract output) (ctx.extract output) world
  | called {call : ToolCall} {space function : String} {tool : Tool σ} {between after : σ}
      {result : Json} (hs : splitRecipient? call.recipient = some (space, function))
      (hr : c.resolve space function world = (some tool, between))
      (hi : tool.invoke (call.preparedArgs ctx tool.parameters) between = (.ok result, after)) :
      Does c ctx world (.tool call) (call.record result ctx) after
  | said {u : Utterance} (hu : u.speechChannel? = some .final)
      (ht : isMaterial (u.text ctx) = true) :
      Does c ctx world (.say u) { ctx with finalText := u.text ctx } world
  | replied {u : Utterance} {reply : String} {after : σ} (hu : u.speechChannel? = some .final)
      (ht : isMaterial (u.text ctx) = false)
      (hr : c.complete ctx.log world = (.ok reply, after)) :
      Does c ctx world (.say u) { ctx with finalText := reply } after
  | thought {u : Utterance} (hu : u.speechChannel? ≠ some .final)
      (ht : Text.showsNothing (u.text ctx) = false) :
      Does c ctx world (.say u) (ctx.say (.assistant (u.text ctx))) world
  | silent {u : Utterance} (hu : u.speechChannel? ≠ some .final)
      (ht : Text.showsNothing (u.text ctx) = true) : Does c ctx world (.say u) ctx world

variable {s : Step} {ctx after : Context} {world world' : σ}

theorem Does.dispatch (h : s.Does c ctx world after world') :
    s.dispatch c ctx world = ⟨.ok .onward, after, world'⟩ := by
  have hsay {u : Utterance} (hp : u.perform c ctx world = ⟨.ok (), after, world'⟩) :
      (Step.say u).dispatch c ctx world = ⟨.ok .onward, after, world'⟩ :=
    Effect.map_onward_eq_ok_iff.2 ⟨rfl, hp⟩
  cases h with
  | bound output => rfl
  | called hs hr hi =>
      exact Effect.map_onward_eq_ok_iff.2 ⟨rfl, ToolCall.perform_of_answered hs hr hi⟩
  | said hu ht =>
      refine hsay ?_
      rw [Utterance.perform, hu]
      simp only [ht, if_true]
  | replied hu ht hr =>
      refine hsay ?_
      rw [Utterance.perform, hu]
      simp only [ht, Bool.false_eq_true, if_false, Context.complete, hr]
  | thought hu ht =>
      refine hsay ?_
      rw [Utterance.perform]
      split
      · exact absurd ‹_› hu
      · simp only [ht, Bool.false_eq_true, if_false]
  | silent hu ht =>
      refine hsay ?_
      rw [Utterance.perform]
      split
      · exact absurd ‹_› hu
      · simp only [ht, if_true]

theorem does_of_dispatch (h : s.dispatch c ctx world = ⟨.ok .onward, after, world'⟩) :
    s.Does c ctx world after world' := by
  cases s with
  | extract output =>
      cases h
      exact .bound output
  | branch condition onTrue onFalse => cases h
  | halt => cases h
  | tool call =>
      obtain ⟨-, hp⟩ := Effect.map_onward_eq_ok_iff.1 h
      rw [ToolCall.perform] at hp
      split at hp
      · cases hp
      · rename_i hs
        split at hp
        · cases hp
        · rename_i hr
          split at hp
          · cases hp
          · rename_i hi
            cases hp
            exact .called hs hr hi
  | say u =>
      obtain ⟨-, hp⟩ := Effect.map_onward_eq_ok_iff.1 h
      rw [Utterance.perform] at hp
      split at hp
      · rename_i hu
        split at hp
        · rename_i ht
          cases hp
          exact .said hu ht
        · rename_i ht
          rw [Context.complete] at hp
          split at hp
          · cases hp
          · rename_i hr
            cases hp
            exact .replied hu (Bool.eq_false_iff.2 ht) hr
      · rename_i hu
        split at hp
        · rename_i ht
          cases hp
          exact .silent hu ht
        · rename_i ht
          cases hp
          exact .thought hu (Bool.eq_false_iff.2 ht)

/-- A step leads on to a context in the ways of `Does` and no others. -/
theorem dispatch_eq_onward_iff :
    s.dispatch c ctx world = ⟨.ok .onward, after, world'⟩ ↔ s.Does c ctx world after world' :=
  ⟨does_of_dispatch, Does.dispatch⟩

end Step

section
variable {here next : Machine σ} {s : Step} {begun : List Step} {stop : Stop σ}

theorem Next.does_or_enters (h : Next c here s next) :
    s.Does c here.ctx here.world next.ctx next.world ∨
      ∃ condition onTrue onFalse, s = .branch condition onTrue onFalse ∧ next.ctx = here.ctx := by
  cases h with
  | onward _ h => exact .inl (Step.dispatch_eq_onward_iff.1 h)
  | enter _ h =>
      obtain ⟨⟨condition, onTrue, onFalse, rfl, -⟩, rfl, -⟩ := Step.dispatch_eq_enter h
      exact .inr ⟨condition, onTrue, onFalse, rfl, rfl⟩

/-- A walk stops in the context that the completed steps led to. -/
theorem Ends.ctx_eq (h : Ends c here begun stop) : stop.ctx = here.ctx := by
  cases h with
  | cancelled _ => rfl
  | finished _ => rfl
  | halted _ h => exact (Step.eq_halt_of_dispatch h).2.1
  | failed _ h => exact Step.ctx_of_failed h

theorem Next.preorder_sublist (h : Next c here s next) :
    (s :: Step.preorderAll next.steps).Sublist (Step.preorderAll here.steps) := by
  cases h with
  | onward _ h =>
      rw [Machine.steps, Machine.steps, List.flatten_cons, List.flatten_cons, List.cons_append,
        Step.preorderAll, Step.preorder_eq_cons, List.cons_append]
      exact (List.sublist_append_right _ _).cons_cons _
  | enter _ h =>
      obtain ⟨⟨condition, onTrue, onFalse, rfl, rfl⟩, -, -⟩ := Step.dispatch_eq_enter h
      rw [Machine.steps, Machine.steps, List.flatten_cons, List.flatten_cons, List.flatten_cons,
        List.cons_append, Step.preorderAll, Step.preorder, Step.preorderAll_append,
        List.cons_append]
      refine (List.Sublist.append_right ?_ _).cons_cons _
      split
      · exact List.sublist_append_left _ _
      · exact List.sublist_append_right _ _

theorem Ends.begun_eq (h : Ends c here begun stop) :
    begun = [] ∨ ∃ s rest, here.steps = s :: rest ∧ begun = [s] := by
  cases h with
  | cancelled _ => exact .inl rfl
  | finished _ => exact .inl rfl
  | halted _ _ => exact .inr ⟨_, _, rfl, rfl⟩
  | failed _ _ => exact .inr ⟨_, _, rfl, rfl⟩

theorem Ends.preorder_sublist (h : Ends c here begun stop) :
    begun.Sublist (Step.preorderAll here.steps) := by
  rcases h.begun_eq with rfl | ⟨s, rest, hsteps, rfl⟩
  · exact List.nil_sublist _
  · rw [hsteps, Step.preorderAll, Step.preorder_eq_cons, List.cons_append]
    exact (List.nil_sublist _).cons_cons _

end

/-- The steps that a walk begins stand in this order among the steps that are still to do. -/
theorem Machine.dispatched_sublist (m : Machine σ) :
    (m.dispatched c).Sublist (Step.preorderAll m.steps) := by
  rw [← m.visits_map_step]
  refine m.walk_induction (c := c) (P := fun here visits _ =>
    (visits.map Visit.step).Sublist (Step.preorderAll here.steps)) ?_ ?_ ?_
  · intro here begun stop h
    rw [List.map_map]
    have hid : Visit.step ∘ here.visit = id := rfl
    rw [hid, List.map_id]
    exact h.preorder_sublist
  · intro here after visits stop h ih
    rwa [← h.same.1]
  · intro here s after visits stop h ih
    rw [List.map_cons]
    exact (ih.cons_cons s).trans h.preorder_sublist

end Dialogue
