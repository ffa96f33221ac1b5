import Dialogue.Proofs.Run.Failure

/-!
# The trace of a run

A visit is a step as a run begins it, in its context and its world. The visits of a walk are told by
its turns; they are the steps that it completes and the one at which it stops, so whatever holds at
each way of stopping, and is kept when a completed step is put in front, holds of every walk.

In a watched world a walk asks for what its visits ask for, in their order. A run asks once more if
it is closed with a summary.
-/
namespace Dialogue

variable {σ : Type} {c : Collaborators σ}

/-- A step as a run begins it. -/
structure Visit (σ : Type) where
  step : Step
  ctx : Context
  world : σ

namespace Visit

def asks (v : Visit σ) : Bool := v.step.asks v.ctx

def calls (c : Collaborators σ) (v : Visit σ) : List Call := v.step.calls c v.ctx v.world

theorem flatMap_calls_log? (visits : List (Visit σ)) :
    (visits.flatMap (calls c)).filterMap Call.log? = (visits.filter asks).map (·.ctx.log) := by
  induction visits with
  | nil => rfl
  | cons v visits ih =>
      rw [List.flatMap_cons, List.filterMap_append, ih, calls, Step.calls_log?, List.filter_cons,
        asks]
      split <;> rfl

end Visit

namespace Machine

def visit (m : Machine σ) (s : Step) : Visit σ := ⟨s, m.ctx, m.world⟩

/-- The step that the next turn begins, as it is begun. -/
def visit? (c : Collaborators σ) (m : Machine σ) : Option (Visit σ) := (m.current? c).map m.visit

/-- The steps that the walk begins, in order and as they are begun. -/
def visits (c : Collaborators σ) (m : Machine σ) : List (Visit σ) :=
  match _h : m.advance c with
  | .stopped _ => (m.visit? c).toList
  | .running next => (m.visit? c).toList ++ visits c next
termination_by m.pending
decreasing_by exact advance_pending _h

/-- What holds of the visits and the stop in each way in which a walk stops, and is kept when an
empty frame or a completed step is put in front, holds of every walk. -/
theorem walk_induction {P : Machine σ → List (Visit σ) → Stop σ → Prop}
    (ends : ∀ here begun stop, Ends c here begun stop → P here (begun.map here.visit) stop)
    (drop : ∀ here after visits stop, Drops c here after → P after visits stop →
      P here visits stop)
    (next : ∀ here s after visits stop, Next c here s after → P after visits stop →
      P here (here.visit s :: visits) stop) (m : Machine σ) :
    P m (m.visits c) (m.walk c) := by
  have hvisit (m : Machine σ) :
      (m.visit? c).toList = (m.current? c).toList.map m.visit := by
    rw [visit?]
    cases m.current? c <;> rfl
  induction m using walk.induct c with
  | case1 m stop h =>
      rw [walk, visits, h, hvisit]
      exact ends _ _ _ (ends_of_advance h)
  | case2 m after h ih =>
      rw [walk, visits, h, hvisit]
      dsimp only
      rcases next_of_advance h with ⟨hcurrent, hdrops⟩ | ⟨s, hcurrent, hnext⟩
      · rw [hcurrent]
        exact drop _ _ _ _ hdrops ih
      · rw [hcurrent]
        exact next _ s _ _ _ hnext ih

variable {m : Machine σ}

theorem visits_map_step (m : Machine σ) : (m.visits c).map Visit.step = m.dispatched c := by
  have hstep (m : Machine σ) : (m.visit? c).toList.map Visit.step = (m.current? c).toList := by
    rw [visit?]
    cases m.current? c <;> rfl
  induction m using walk.induct c with
  | case1 m stop h =>
      rw [visits, dispatched, h]
      exact hstep m
  | case2 m next h ih =>
      rw [visits, dispatched, h]
      dsimp only
      rw [List.map_append, hstep, ih]

theorem advance_watched (m : Machine σ) (calls : List Call) :
    let calls' := calls ++ (m.visit? c).toList.flatMap (Visit.calls c)
    match m.advance c with
    | .stopped stop =>
        (m.watched calls).advance c.watched = .stopped ⟨stop.error, stop.ctx, stop.world, calls'⟩
    | .running next => (m.watched calls).advance c.watched = .running (next.watched calls') := by
  obtain ⟨frames, ctx, world, turn⟩ := m
  unfold watched advance visit? current?
  dsimp only
  rw [Collaborators.watched_stopsAt]
  cases c.stopsAt turn world with
  | true => simp
  | false =>
      simp only [Bool.false_eq_true, if_false]
      cases frames with
      | nil => simp
      | cons frame frames =>
          cases frame with
          | nil => simp
          | cons s rest =>
              simp only [Option.map_some, Option.toList_some, List.flatMap_singleton, Visit.calls,
                visit, Step.dispatch_watched]
              rcases s.dispatch c ctx world with ⟨_ | _ | chosen | _, after, world'⟩ <;> rfl

theorem walk_watched (m : Machine σ) (calls : List Call) :
    (m.watched calls).walk c.watched =
      ⟨(m.walk c).error, (m.walk c).ctx, (m.walk c).world,
        calls ++ (m.visits c).flatMap (Visit.calls c)⟩ := by
  induction m using walk.induct c generalizing calls with
  | case1 m stop h =>
      have hadvance := m.advance_watched (c := c) calls
      rw [h] at hadvance
      rw [walk, walk, visits, hadvance, h]
  | case2 m next h ih =>
      have hadvance := m.advance_watched (c := c) calls
      rw [h] at hadvance
      rw [walk, walk, visits, hadvance, h]
      dsimp only
      rw [List.flatMap_append, ← List.append_assoc]
      exact ih _

end Machine

namespace Stop

/-- The walk came to its end and left no text, so that the run is closed with a summary. -/
def lacksText (stop : Stop σ) : Bool :=
  stop.error.isNone && Text.showsNothing stop.ctx.finalText

theorem close_of_text {stop : Stop σ} (h : stop.lacksText = false) (prompt : String) :
    stop.close c prompt = stop := by
  rw [close, ← lacksText, h]
  rfl

theorem close_of_lacksText {stop : Stop σ} (h : stop.lacksText = true) (prompt : String) :
    stop.close c prompt =
      match c.complete (stop.ctx.log ++ [.user prompt]) stop.world with
      | (.error message, after) =>
          ⟨some (.chatFailed message), stop.ctx.say (.user prompt), after⟩
      | (.ok reply, after) =>
          ⟨none, { stop.ctx.say (.user prompt) with finalText := reply }, after⟩ := by
  rw [close, ← lacksText, h, if_pos rfl, summarize]
  simp only [Context.complete, Context.say]
  rcases hr : c.complete (stop.ctx.log ++ [.user prompt]) stop.world with ⟨_ | reply, after⟩ <;>
    simp only [hr]

/-- What is asked of the world for a summary: a reply to the conversation with the prompt behind it.
-/
def closingCalls (stop : Stop σ) (prompt : String) : List Call :=
  if stop.lacksText then [.complete (stop.ctx.log ++ [.user prompt])] else []

theorem close_watched (stop : Stop σ) (prompt : String) (calls : List Call) :
    ((⟨stop.error, stop.ctx, stop.world, calls⟩ : Stop (σ × List Call)).close
        c.watched prompt).world =
      ((stop.close c prompt).world, calls ++ stop.closingCalls prompt) := by
  unfold close closingCalls lacksText
  dsimp only
  cases stop.error.isNone && Text.showsNothing stop.ctx.finalText with
  | false => simp
  | true =>
      rw [if_pos rfl, if_pos rfl, if_pos rfl, summarize, summarize]
      dsimp only
      rw [Context.complete_watched]
      rcases (stop.ctx.say (.user prompt)).complete c stop.world with ⟨_ | _, ctx, world'⟩ <;> rfl

end Stop

namespace Script

def visits (script : Script) (c : Collaborators σ) (setup : RunSetup) (input : Fields)
    (world : σ) : List (Visit σ) :=
  match script.validate with
  | .error _ => []
  | .ok _ => (script.machine setup input world).visits c

/-- A run of the script is closed with a summary. -/
def summarized (script : Script) (c : Collaborators σ) (setup : RunSetup) (input : Fields)
    (world : σ) : Bool :=
  match script.validate with
  | .error _ => false
  | .ok _ => ((script.machine setup input world).walk c).lacksText

def calls (script : Script) (c : Collaborators σ) (setup : RunSetup) (input : Fields)
    (world : σ) : List Call :=
  (script.run c.watched setup input (world, [])).2.2

section
variable (script : Script) (c : Collaborators σ) (setup : RunSetup) (input : Fields) (world : σ)

theorem visits_map_step :
    (script.visits c setup input world).map Visit.step =
      script.dispatched c setup input world := by
  unfold visits dispatched
  cases script.validate with
  | error _ => rfl
  | ok _ => exact Machine.visits_map_step _

theorem calls_of_error {reason : StepError} (hv : script.validate = .error reason) :
    script.calls c setup input world = [] ∧ script.visits c setup input world = [] := by
  unfold calls run stop visits
  simp only [hv, and_self]

theorem visits_of_ok (hv : script.validate = .ok ()) :
    script.visits c setup input world = (script.machine setup input world).visits c := by
  rw [visits, hv]

/-- A run asks for what its visits ask for, in their order, and last for a summary. -/
theorem calls_eq (hv : script.validate = .ok ()) :
    script.calls c setup input world =
      (script.visits c setup input world).flatMap (Visit.calls c) ++
        ((script.machine setup input world).walk c).closingCalls setup.summarizePrompt := by
  let m := script.machine setup input world
  have hwalk := m.walk_watched (c := c) []
  have hclose := (m.walk c).close_watched (c := c) setup.summarizePrompt
    ((m.visits c).flatMap (Visit.calls c))
  rw [List.nil_append] at hwalk
  rw [← hwalk] at hclose
  rw [script.visits_of_ok c setup input world hv]
  unfold calls run stop
  simp only [hv]
  exact congrArg Prod.snd hclose

end

end Script

end Dialogue
