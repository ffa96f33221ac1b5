import Dialogue.Proofs.Except
import Dialogue.Proofs.Run.Logs

/-!
# Analysis stays inside

What the assistant says on the analysis channel joins the conversation and nothing else. So a run
in a world that ignores logs has the same result as one without these steps, and neither the
history nor the prompt of the summary shows in it.

The two runs are compared step by step: a step that is left out changes the log alone, any other
step leads on in the same way and keeps contexts alike and worlds related. The induction is on the
size of what is left to do, since a branch puts its steps in front of the others.
-/
namespace Dialogue

variable {σ : Type}

namespace Step

def isAnalysis : Step → Bool
  | .say u => u.speechChannel? == some .analysis
  | _ => false

mutual

/-- The step without analysis in its branches. -/
def withoutAnalysis : Step → Step
  | .branch condition onTrue onFalse =>
      .branch condition (withoutAnalysisAll onTrue) (withoutAnalysisAll onFalse)
  | .extract output => .extract output
  | .tool call => .tool call
  | .say utterance => .say utterance
  | .halt => .halt
termination_by structural s => s

def withoutAnalysisAll : List Step → List Step
  | [] => []
  | s :: rest =>
      if isAnalysis s then withoutAnalysisAll rest
      else withoutAnalysis s :: withoutAnalysisAll rest
termination_by structural steps => steps

end

theorem withoutAnalysisAll_cons_of_analysis {s : Step} (h : s.isAnalysis = true)
    (rest : List Step) : withoutAnalysisAll (s :: rest) = withoutAnalysisAll rest := by
  rw [withoutAnalysisAll, if_pos h]

theorem withoutAnalysisAll_cons {s : Step} (h : s.isAnalysis = false) (rest : List Step) :
    withoutAnalysisAll (s :: rest) = s.withoutAnalysis :: withoutAnalysisAll rest := by
  rw [withoutAnalysisAll, if_neg (Bool.not_eq_true _ ▸ h)]

theorem withoutAnalysisAll_append (xs ys : List Step) :
    withoutAnalysisAll (xs ++ ys) = withoutAnalysisAll xs ++ withoutAnalysisAll ys := by
  induction xs with
  | nil => rfl
  | cons s xs ih =>
      rw [List.cons_append, withoutAnalysisAll, withoutAnalysisAll, ih]
      split <;> rfl

variable {c : Collaborators σ} {R : σ → σ → Prop} {a b : Context} {w v : σ}

def flowWithoutAnalysis : Flow → Flow
  | .onward => .onward
  | .enter chosen => .enter (withoutAnalysisAll chosen)
  | .halt => .halt

theorem dispatch_withoutAnalysis (hb : c.Blind R) (h : a.Alike b) (hw : R w v) (s : Step) :
    ((s.dispatch c a w).map flowWithoutAnalysis).Alike R (s.withoutAnalysis.dispatch c b v) := by
  have honward (e : Effect σ Unit) :
      (e.map fun _ => Flow.onward).map flowWithoutAnalysis = e.map fun _ => Flow.onward := by
    obtain ⟨_ | _, _, _⟩ := e <;> rfl
  cases s with
  | extract output => exact ⟨rfl, h.extract output, hw⟩
  | tool call =>
      rw [withoutAnalysis, dispatch, dispatch, honward]
      exact (call.perform_alike hb h hw).map _
  | branch condition onTrue onFalse =>
      rw [withoutAnalysis, dispatch, dispatch, h.holds]
      refine ⟨?_, h, hw⟩
      cases b.holds condition <;> rfl
  | say utterance =>
      rw [withoutAnalysis, dispatch, dispatch, honward]
      exact (utterance.perform_alike hb h hw).map _
  | halt => exact ⟨rfl, h, hw⟩

/-- Analysis only adds to the log, if it does anything. -/
theorem dispatch_analysis {s : Step} (hs : s.isAnalysis = true) (h : a.Alike b) (world : σ) :
    ∃ after, s.dispatch c a world = ⟨.ok .onward, after, world⟩ ∧ after.Alike b := by
  cases s with
  | say u =>
      have hchannel : u.speechChannel? = some .analysis := beq_iff_eq.1 hs
      rw [dispatch, Utterance.perform, hchannel]
      dsimp only
      split
      · exact ⟨a, rfl, h⟩
      · exact ⟨_, rfl, h.say_left _⟩
  | extract output => cases hs
  | tool call => cases hs
  | branch condition onTrue onFalse => cases hs
  | halt => cases hs

/-- The runs stopped for the same reason, in contexts that are alike and related worlds. -/
structure StopAlike (R : σ → σ → Prop) (stop stop' : Stop σ) : Prop where
  error : stop.error = stop'.error
  ctx : stop.ctx.Alike stop'.ctx
  world : R stop.world stop'.world

theorem sizeAll_enter_lt {s : Step} {chosen : List Step} {after : σ}
    {ctx : Context} (h : s.dispatch c a w = ⟨.ok (.enter chosen), ctx, after⟩)
    (rest : List Step) : sizeAll (chosen ++ rest) < sizeAll (s :: rest) := by
  obtain ⟨⟨condition, onTrue, onFalse, rfl, rfl⟩, -, -⟩ := dispatch_eq_enter h
  exact sizeAll_chosen_lt condition onTrue onFalse rest _

theorem follow_withoutAnalysisAll (hb : c.Blind R) (steps : List Step) (h : a.Alike b)
    (hw : R w v) :
    StopAlike R (follow c steps a w) (follow c (withoutAnalysisAll steps) b v) := by
  induction hn : sizeAll steps using Nat.strongRecOn generalizing steps a b w v with
  | ind n ih =>
      subst hn
      cases steps with
      | nil =>
          rw [withoutAnalysisAll, follow, follow]
          exact ⟨rfl, h, hw⟩
      | cons s rest =>
          have hrest : sizeAll rest < sizeAll (s :: rest) := sizeAll_lt_cons s rest
          cases hs : s.isAnalysis with
          | true =>
              -- Only the first run takes a step.
              obtain ⟨after, hdone, hafter⟩ := dispatch_analysis (c := c) hs h w
              rw [withoutAnalysisAll_cons_of_analysis hs, follow_cons, hdone]
              exact ih _ hrest rest hafter hw rfl
          | false =>
              obtain ⟨hflow, hctx, hworld⟩ := dispatch_withoutAnalysis hb h hw s
              rw [withoutAnalysisAll_cons hs, follow_cons, follow_cons]
              rcases hx : s.dispatch c a w with ⟨result, a', w'⟩
              rcases hy : s.withoutAnalysis.dispatch c b v with ⟨result', b', v'⟩
              rw [hx, hy] at hflow hctx hworld
              subst hflow
              rcases result with e | (_ | chosen | _)
              · exact ⟨rfl, hctx, hworld⟩
              · exact ih _ hrest rest hctx hworld rfl
              · have hboth := ih _ (sizeAll_enter_lt hx rest) (chosen ++ rest) hctx hworld rfl
                rw [withoutAnalysisAll_append] at hboth
                exact hboth
              · exact ⟨rfl, hctx, hworld⟩

end Step

variable {c : Collaborators σ} {R : σ → σ → Prop}

/-- Closing a run adds to the log and asks the model, which shows in the reply alone. -/
theorem Stop.result_close {stop stop' : Stop σ} (hb : c.Blind R)
    (h : Step.StopAlike R stop stop') (prompt prompt' : String) :
    (stop.close c prompt).result = (stop'.close c prompt').result := by
  have hresult {p q : Stop σ} (he : p.error = q.error) (hc : p.ctx.Alike q.ctx) :
      p.result = q.result := by
    rw [result, result, he, hc.vars, hc.finalText]
  rw [close, close, h.error, h.ctx.finalText]
  split
  · have halike := Context.complete_alike hb (h.ctx.say (.user prompt) (.user prompt')) h.world
    rw [summarize, summarize]
    generalize (stop.ctx.say (.user prompt)).complete c stop.world = x at halike
    generalize (stop'.ctx.say (.user prompt')).complete c stop'.world = y at halike
    obtain ⟨result, ctx, world⟩ := x
    obtain ⟨_, ctx', world'⟩ := y
    obtain ⟨rfl, hctx, -⟩ := halike
    cases result with
    | error _ => exact hresult rfl hctx
    | ok _ => exact hresult rfl hctx
  · exact hresult h.error h.ctx

namespace Script

/-- A valid script has the result of its steps without analysis, whatever the histories and the
prompts are. -/
theorem run_eq_withoutAnalysis (hc : ∀ turn world, c.stopsAt turn world = false) {world : σ}
    (hw : c.IgnoresLogs world) {script : Script} (hv : script.validate = .ok ())
    (setup setup' : RunSetup) (input : Fields) :
    (script.run c setup input world).1 =
      ((Step.follow c (Step.withoutAnalysisAll script.steps) (script.start input setup'.history)
        world).close c setup'.summarizePrompt).result := by
  obtain ⟨R, hb, hR⟩ := hw
  have hstart : (script.start input setup.history).Alike (script.start input setup'.history) :=
    ⟨rfl, rfl, rfl⟩
  rw [run, stop, hv]
  show ((Machine.walk c (.start script.steps _ world)).close c setup.summarizePrompt).result = _
  rw [Machine.walk_eq_follow hc, Machine.follow, Machine.steps_start]
  exact Stop.result_close hb (Step.follow_withoutAnalysisAll hb script.steps hstart hR) _ _

/-- Two valid scripts that are the same but for analysis have the same result in any world that
ignores logs, whatever the histories and the prompts are. A world ignores logs if it is made of any
tools and of a model whose replies do not depend on the logs. -/
theorem run_ignores_analysis :
    (∀ {σ : Type} (c : Collaborators σ) (world : σ), c.IgnoresLogs world →
      (∀ turn world, c.stopsAt turn world = false) →
      ∀ s t : Script, s.validate = .ok () → t.validate = .ok () → s.vars = t.vars →
        Step.withoutAnalysisAll s.steps = Step.withoutAnalysisAll t.steps →
        ∀ (setup setup' : RunSetup) (input : Fields),
          (s.run c setup input world).1 = (t.run c setup' input world).1) ∧
      ∀ {τ γ : Type} (tools : ToolSource τ) (chat : ChatModel γ) (world : τ) (state : γ),
        chat.IgnoresLogs state →
        (Collaborators.beside tools chat).IgnoresLogs (world, state) ∧
          ∀ turn world, (Collaborators.beside tools chat).stopsAt turn world = false := by
  refine ⟨?_, fun tools chat world state h =>
    ⟨Collaborators.beside_ignoresLogs tools h world, fun _ _ => rfl⟩⟩
  intro σ c world hw hc s t hs ht hvars hsteps setup setup' input
  have hstart : s.start input setup'.history = t.start input setup'.history := by
    rw [start, start, hvars]
  rw [run_eq_withoutAnalysis hc hw hs setup setup' input,
    run_eq_withoutAnalysis hc hw ht setup' setup' input, hsteps, hstart]

/-- A model that keeps all conversations and replies with their number. -/
def keeping : ChatModel (List (List ChatTurn)) := fun log shown =>
  (.ok (toString shown.length), shown ++ [log])

theorem keeping_ignoresLogs : keeping.IgnoresLogs [] := by
  have hreplies (logs logs' shown shown' : List (List ChatTurn))
      (hlen : logs.length = logs'.length) (hshown : shown.length = shown'.length) :
      keeping.replies logs shown = keeping.replies logs' shown' := by
    induction logs generalizing logs' shown shown' with
    | nil =>
        obtain rfl := List.length_eq_zero_iff.1 hlen.symm
        rfl
    | cons log logs ih =>
        obtain ⟨log', logs', rfl⟩ := List.exists_cons_of_length_eq_add_one hlen.symm
        have hrest : (shown ++ [log]).length = (shown' ++ [log']).length := by
          rw [List.length_append, List.length_append, hshown]
          rfl
        rw [ChatModel.replies, ChatModel.replies, keeping, keeping, hshown,
          ih logs' _ _ (Nat.succ.inj hlen) hrest]
  exact fun logs logs' hlen => hreplies logs logs' [] [] hlen rfl

/-- A call between thoughts, and a text that the model has to give. -/
def thinking (thoughts : List String) : Script :=
  let analysis : List Step := thoughts.map fun thought =>
    .say { channel := "analysis", content := some thought }
  { steps := .branch "$vars.x" [] analysis ::
      .tool { recipient := "a.b", channel := "commentary", saveAs := "x" } ::
      (analysis ++ [.say { channel := "final" }]) }

/-- Neither thoughts nor histories make a difference to the model that keeps them. -/
theorem run_thinking :
    let tools : ToolSource Unit := fun space function world =>
      ((Registry.ofFixtures [("a.b", .bool true)]).resolve space function, world)
    (thinking []).validate = .ok () ∧ (thinking ["yes", "no"]).validate = .ok () ∧
      keeping.IgnoresLogs [] ∧
      ((thinking []).run (.beside tools keeping) ⟨[.user "why"], "sum up"⟩ [] ((), [])).1 =
        ((thinking ["yes", "no"]).run (.beside tools keeping) {} [] ((), [])).1 := by
  intro tools
  have hnone : (thinking []).validate = .ok () := toOption_eq_some_iff.1 (by decide +kernel)
  have htwo : (thinking ["yes", "no"]).validate = .ok () :=
    toOption_eq_some_iff.1 (by decide +kernel)
  obtain ⟨hw, hc⟩ := run_ignores_analysis.2 tools keeping () [] keeping_ignoresLogs
  refine ⟨hnone, htwo, keeping_ignoresLogs, ?_⟩
  exact run_ignores_analysis.1 _ _ hw hc _ _ hnone htwo rfl (by decide) _ _ _

end Script
end Dialogue
