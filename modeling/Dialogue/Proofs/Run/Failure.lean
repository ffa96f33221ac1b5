import Dialogue.Proofs.Run.Calls
import Dialogue.Proofs.Run.Completion
import Dialogue.Proofs.Script.Reading

/-!
# Where a failed run stops

`Step.Fails` names the call to the collaborators that makes a step fail, and `Script.FailsWith` the
ways in which a run ends with an error: a rule that is broken, being told to stop, a step that
fails, and a summary that is not given. In each of them it says what is reported, which steps were
begun, and in what context and world the run was left. A step that fails leaves the context that it
was begun in, so this context is always the one that the completed steps led to; and the world is
the one that the failing call gave back, so nothing was asked of it later.

A run has an error exactly when it fails in one of these ways. Recipients without two parts are no
way to fail, because the rules are checked before the first step; that steps inside branches pass
them is an invariant of the walk.
-/
namespace Dialogue

variable {σ : Type} {c : Collaborators σ}

theorem Effect.map_eq_error {α β : Type} {f : α → β} {e : Effect σ α} {reason : RunError}
    {ctx : Context} {world : σ} (h : e.map f = ⟨.error reason, ctx, world⟩) :
    e = ⟨.error reason, ctx, world⟩ := by
  obtain ⟨result, ctx', world'⟩ := e
  cases result with
  | error _ =>
      cases h
      rfl
  | ok _ => cases h

theorem ToolCall.ctx_of_failed {call : ToolCall} {ctx after : Context} {world world' : σ}
    {e : RunError} (h : call.perform c ctx world = ⟨.error e, after, world'⟩) : after = ctx := by
  rw [perform] at h
  split at h
  · cases h
    rfl
  · split at h
    · cases h
      rfl
    · split at h
      · cases h
        rfl
      · cases h

theorem Utterance.ctx_of_failed {u : Utterance} {ctx after : Context} {world world' : σ}
    {e : RunError} (h : u.perform c ctx world = ⟨.error e, after, world'⟩) : after = ctx := by
  rw [perform] at h
  split at h
  · split at h
    · cases h
    · rw [Context.complete] at h
      split at h
      · cases h
        rfl
      · cases h
  · split at h <;> cases h

namespace Step

variable {s : Step} {ctx after : Context} {world world' : σ} {call : Call} {kind message : String}
variable {e : RunError}

theorem ctx_of_failed (h : s.dispatch c ctx world = ⟨.error e, after, world'⟩) : after = ctx := by
  cases s with
  | extract output => cases h
  | branch condition onTrue onFalse => cases h
  | halt => cases h
  | tool call => exact ToolCall.ctx_of_failed (Effect.map_eq_error h)
  | say u => exact Utterance.ctx_of_failed (Effect.map_eq_error h)

theorem eq_halt_of_dispatch (h : s.dispatch c ctx world = ⟨.ok .halt, after, world'⟩) :
    s = .halt ∧ after = ctx ∧ world' = world := by
  cases s with
  | halt =>
      cases h
      exact ⟨rfl, rfl, rfl⟩
  | extract output => cases h
  | branch condition onTrue onFalse => cases h
  | tool call => cases (Effect.map_onward_eq_ok_iff.1 h).1
  | say u => cases (Effect.map_onward_eq_ok_iff.1 h).1

/-- A call that the step makes fails; the kind and the text of the error, and the world after the
call. -/
inductive Fails (c : Collaborators σ) (ctx : Context) (world : σ) :
    Step → Call → (kind message : String) → σ → Prop
  | notFound {call : ToolCall} {space function : String} {after : σ}
      (hs : splitRecipient? call.recipient = some (space, function))
      (hr : c.resolve space function world = (none, after)) :
      Fails c ctx world (.tool call) (.resolve space function) "tool_not_found"
        ("tool '" ++ call.recipient ++ "' not found") after
  | refused {call : ToolCall} {space function : String} {tool : Tool σ} {between after : σ}
      {reason : String} (hs : splitRecipient? call.recipient = some (space, function))
      (hr : c.resolve space function world = (some tool, between))
      (hi : tool.invoke (call.preparedArgs ctx tool.parameters) between =
        (.error (.invalidArguments reason), after)) :
      Fails c ctx world (.tool call)
        (.invoke space function (call.preparedArgs ctx tool.parameters)) "invalid_arguments"
        ("invalid arguments for tool '" ++ call.recipient ++ "': " ++ reason) after
  | failed {call : ToolCall} {space function : String} {tool : Tool σ} {between after : σ}
      {reason : String} (hs : splitRecipient? call.recipient = some (space, function))
      (hr : c.resolve space function world = (some tool, between))
      (hi : tool.invoke (call.preparedArgs ctx tool.parameters) between =
        (.error (.failed reason), after)) :
      Fails c ctx world (.tool call)
        (.invoke space function (call.preparedArgs ctx tool.parameters)) "tool_failed"
        ("tool '" ++ call.recipient ++ "' failed: " ++ reason) after
  | unanswered {u : Utterance} {reason : String} {after : σ}
      (hu : u.speechChannel? = some .final) (ht : isMaterial (u.text ctx) = false)
      (hr : c.complete ctx.log world = (.error reason, after)) :
      Fails c ctx world (.say u) (.complete ctx.log) "chat_failed"
        ("chat provider failed: " ++ reason) after

theorem Fails.dispatch (h : s.Fails c ctx world call kind message world') :
    ∃ e, s.dispatch c ctx world = ⟨.error e, ctx, world'⟩ ∧ e.kind = kind ∧
      e.message = message := by
  cases h with
  | notFound hs hr =>
      exact ⟨_, by rw [Step.dispatch, ToolCall.perform_of_missing hs hr]; rfl, rfl, rfl⟩
  | refused hs hr hi =>
      exact ⟨_, by rw [Step.dispatch, ToolCall.perform_of_failed hs hr hi]; rfl, rfl, rfl⟩
  | failed hs hr hi =>
      exact ⟨_, by rw [Step.dispatch, ToolCall.perform_of_failed hs hr hi]; rfl, rfl, rfl⟩
  | @unanswered u reason _ hu ht hr =>
      have hp : u.perform c ctx world = ⟨.error (.chatFailed reason), ctx, world'⟩ := by
        rw [Utterance.perform, hu]
        simp only [ht, Bool.false_eq_true, if_false, Context.complete, hr]
      exact ⟨_, by rw [Step.dispatch, hp]; rfl, rfl, rfl⟩

theorem splitRecipient?_of_validate {call : ToolCall} (h : (tool call).validate = .ok ()) :
    ∃ recipient, splitRecipient? call.recipient = some recipient := by
  rw [validate, check, checkTool] at h
  split at h
  · cases h
  · rename_i hs
    rw [Option.isNone_iff_eq_none] at hs
    exact Option.ne_none_iff_exists'.1 hs

/-- A step that passes the rules fails only because a call fails. -/
theorem exists_fails (hv : s.validate = .ok ())
    (h : s.dispatch c ctx world = ⟨.error e, after, world'⟩) :
    ∃ call kind message, s.Fails c ctx world call kind message world' := by
  cases s with
  | extract output => cases h
  | branch condition onTrue onFalse => cases h
  | halt => cases h
  | tool call =>
      obtain ⟨⟨space, function⟩, hs⟩ := splitRecipient?_of_validate hv
      have hp := Effect.map_eq_error h
      rw [ToolCall.perform, hs] at hp
      dsimp only at hp
      split at hp
      · rename_i hr
        cases hp
        exact ⟨_, _, _, .notFound hs hr⟩
      · rename_i hr
        split at hp
        · rename_i reason _ hi
          cases hp
          cases reason with
          | invalidArguments reason => exact ⟨_, _, _, .refused hs hr hi⟩
          | failed reason => exact ⟨_, _, _, .failed hs hr hi⟩
        · cases hp
  | say u =>
      have hp := Effect.map_eq_error h
      rw [Utterance.perform] at hp
      split at hp
      · rename_i hu
        split at hp
        · cases hp
        · rename_i ht
          rw [Context.complete] at hp
          split at hp
          · rename_i hr
            cases hp
            exact ⟨_, _, _, .unanswered hu (Bool.eq_false_iff.2 ht) hr⟩
          · cases hp
      · split at hp <;> cases hp

/-- In a watched world the call that fails is the last one. -/
theorem Fails.watched (h : s.Fails c ctx world call kind message world') (calls : List Call) :
    ∃ earlier,
      s.Fails c.watched ctx (world, calls) call kind message (world', earlier ++ [call]) := by
  have hresolve {space function : String} {found : Option (Tool σ)} {between : σ}
      (hr : c.resolve space function world = (found, between)) :
      c.watched.resolve space function (world, calls) =
        (found.map (Tool.watched space function), between, calls ++ [.resolve space function]) := by
    rw [Collaborators.watched_resolve, hr]
  have hinvoke (space function : String) {tool : Tool σ} {args : Fields} {between : σ}
      {result : Except ToolError Json} (hi : tool.invoke args between = (result, world')) :
      (tool.watched space function).invoke args (between, calls ++ [.resolve space function]) =
        (result, world', calls ++ [.resolve space function] ++ [.invoke space function args]) := by
    rw [Tool.watched_invoke, hi]
  cases h with
  | notFound hs hr => exact ⟨calls, .notFound hs (hresolve hr)⟩
  | refused hs hr hi => exact ⟨_, .refused hs (hresolve hr) (hinvoke _ _ hi)⟩
  | failed hs hr hi => exact ⟨_, .failed hs (hresolve hr) (hinvoke _ _ hi)⟩
  | unanswered hu ht hr =>
      refine ⟨calls, .unanswered hu ht ?_⟩
      rw [Collaborators.watched_complete, hr]

theorem dispatch_watched (s : Step) (ctx : Context) (world : σ) (calls : List Call) :
    s.dispatch c.watched ctx (world, calls) =
      (s.dispatch c ctx world).watched (calls ++ s.calls c ctx world) := by
  have hsilent : calls ++ [] = calls := List.append_nil calls
  cases s with
  | extract output => rw [Step.calls, hsilent]; rfl
  | branch condition onTrue onFalse => rw [Step.calls, hsilent]; rfl
  | halt => rw [Step.calls, hsilent]; rfl
  | tool call => rw [dispatch, call.perform_watched]; rfl
  | say u => rw [dispatch, u.perform_watched]; rfl

end Step

def Machine.watched (m : Machine σ) (calls : List Call) : Machine (σ × List Call) :=
  ⟨m.frames, m.ctx, (m.world, calls), m.turn⟩

section
variable {here next last : Machine σ} {s : Step} {done : List Step}

theorem Next.watched (h : Next c here s next) (calls : List Call) :
    ∃ calls', Next c.watched (here.watched calls) s (next.watched calls') := by
  cases h with
  | onward hc h => exact ⟨_, .onward hc (by rw [Step.dispatch_watched, h]; rfl)⟩
  | enter hc h => exact ⟨_, .enter hc (by rw [Step.dispatch_watched, h]; rfl)⟩

theorem Drops.same (h : Drops c here next) : next.steps = here.steps ∧ next.ctx = here.ctx := by
  cases h with
  | drop _ => exact ⟨rfl, rfl⟩

theorem Drops.watched (h : Drops c here next) (calls : List Call) :
    Drops c.watched (here.watched calls) (next.watched calls) := by
  cases h with
  | drop hc => exact .drop hc

theorem Completes.watched (h : Completes c here done last) (calls : List Call) :
    ∃ calls', Completes c.watched (here.watched calls) done (last.watched calls') := by
  induction h generalizing calls with
  | none here => exact ⟨calls, .none _⟩
  | drop hdrops _ ih =>
      obtain ⟨calls', hd⟩ := ih calls
      exact ⟨calls', .drop (hdrops.watched calls) hd⟩
  | step hn _ ih =>
      obtain ⟨between, hn'⟩ := hn.watched calls
      obtain ⟨calls', hd⟩ := ih between
      exact ⟨calls', .step hn' hd⟩

theorem Next.validateAll (h : Next c here s next) (hv : Step.validateAll here.steps = .ok ()) :
    Step.validateAll next.steps = .ok () := by
  cases h with
  | onward _ _ => exact (Step.validateAll_cons_eq_ok_iff.1 hv).2
  | enter _ h =>
      obtain ⟨hs, hrest⟩ := Step.validateAll_cons_eq_ok_iff.1 hv
      obtain ⟨⟨condition, onTrue, onFalse, rfl, rfl⟩, -, -⟩ := Step.dispatch_eq_enter h
      obtain ⟨htrue, hfalse⟩ := (Step.validate_eq_ok_iff.1 hs).2
      rw [Step.validateAll_eq_ok_iff] at htrue hfalse ⊢
      intro t ht
      rcases List.mem_append.1 ht with ht | ht
      · split at ht
        · exact htrue t ht
        · exact hfalse t ht
      · exact Step.validateAll_eq_ok_iff.1 hrest t ht

theorem Completes.validateAll (h : Completes c here done last)
    (hv : Step.validateAll here.steps = .ok ()) : Step.validateAll last.steps = .ok () := by
  induction h with
  | none here => exact hv
  | drop hdrops _ ih => exact ih (by rwa [hdrops.same.1])
  | step hn _ ih => exact ih (hn.validateAll hv)

end

namespace Script

/-- The machine that a run of the script starts, once its rules are checked. -/
def machine (script : Script) (setup : RunSetup) (input : Fields) (world : σ) : Machine σ :=
  .start script.steps (script.start input setup.history) world

def dispatched (script : Script) (c : Collaborators σ) (setup : RunSetup) (input : Fields)
    (world : σ) : List Step :=
  match script.validate with
  | .error _ => []
  | .ok _ => (script.machine setup input world).dispatched c

/-- A run of the script ends with an error of this kind and this text, and leaves this context and
this world behind; it has begun these steps, and this is the call that failed, if it was a call. -/
inductive FailsWith (script : Script) (c : Collaborators σ) (setup : RunSetup) (input : Fields)
    (world : σ) : (kind message : String) → Context → σ → List Step → Option Call → Prop
  | check {reason : StepError} (h : script.validate = .error reason) :
      FailsWith script c setup input world "invalid_script" ("invalid script: " ++ reason.message)
        { vars := .ofFields (script.vars.getD []), input, log := setup.history, finalText := "" }
        world [] none
  | cancelled {done : List Step} {last : Machine σ} (hv : script.validate = .ok ())
      (h : Completes c (script.machine setup input world) done last)
      (hc : c.stopsAt last.turn last.world = true) :
      FailsWith script c setup input world "cancelled" "execution cancelled" last.ctx last.world
        done none
  | step {done rest : List Step} {s : Step} {frames : List (List Step)} {ctx : Context}
      {before after : σ} {turn : Nat} {call : Call} {kind message : String}
      (hv : script.validate = .ok ())
      (h : Completes c (script.machine setup input world) done
        ⟨(s :: rest) :: frames, ctx, before, turn⟩)
      (hc : c.stopsAt turn before = false) (hf : s.Fails c ctx before call kind message after) :
      FailsWith script c setup input world kind message ctx after (done ++ [s]) (some call)
  | summary {done begun : List Step} {last : Machine σ} {reason : String} {after : σ}
      (hv : script.validate = .ok ())
      (h : Completes c (script.machine setup input world) done last)
      (hc : c.stopsAt last.turn last.world = false)
      (hend : last.frames = [] ∧ begun = [] ∨
        ∃ rest frames, last.frames = (.halt :: rest) :: frames ∧ begun = [.halt])
      (ht : Text.showsNothing last.ctx.finalText = true)
      (hr : c.complete (last.ctx.log ++ [.user setup.summarizePrompt]) last.world =
        (.error reason, after)) :
      FailsWith script c setup input world "chat_failed" ("chat provider failed: " ++ reason)
        last.ctx after (done ++ begun)
        (some (.complete (last.ctx.log ++ [.user setup.summarizePrompt])))

variable {script : Script} {setup : RunSetup} {input : Fields} {world after : σ}
variable {kind message : String} {ctx : Context} {dispatched : List Step} {call : Option Call}

theorem stop_of_completes (hv : script.validate = .ok ()) {done begun : List Step}
    {last : Machine σ} {stop : Stop σ}
    (h : Completes c (script.machine setup input world) done last) (he : Ends c last begun stop) :
    script.stop c setup input world = stop.close c setup.summarizePrompt ∧
      script.dispatched c setup input world = done ++ begun := by
  obtain ⟨hwalk, hbegun⟩ := Machine.walk_of_completes h he
  unfold Script.stop Script.dispatched
  rw [hv, ← hwalk, ← hbegun]
  exact ⟨rfl, rfl⟩

/-- Where a run fails, its error is of the kind, and its context has the variables and the text. -/
theorem FailsWith.stop
    (h : script.FailsWith c setup input world kind message ctx after dispatched call) :
    (∃ e left, e.kind = kind ∧ e.message = message ∧ left.finalText = ctx.finalText ∧
      left.vars = ctx.vars ∧ script.stop c setup input world = ⟨some e, left, after⟩) ∧
    script.dispatched c setup input world = dispatched := by
  cases h with
  | check h =>
      unfold Script.stop Script.dispatched
      rw [h]
      exact ⟨⟨_, _, rfl, rfl, rfl, rfl, rfl⟩, rfl⟩
  | cancelled hv h hc =>
      obtain ⟨hstop, hbegun⟩ := stop_of_completes hv h (.cancelled hc)
      rw [hstop, hbegun, List.append_nil]
      exact ⟨⟨_, _, rfl, rfl, rfl, rfl, rfl⟩, rfl⟩
  | step hv h hc hf =>
      obtain ⟨e, hd, hkind, hmessage⟩ := hf.dispatch
      obtain ⟨hstop, hbegun⟩ := stop_of_completes hv h (.failed hc hd)
      rw [hstop, hbegun]
      exact ⟨⟨e, _, hkind, hmessage, rfl, rfl, rfl⟩, rfl⟩
  | @summary done begun last reason after hv h hc hend ht hr =>
      have hclose : (⟨none, last.ctx, last.world⟩ : Stop σ).close c setup.summarizePrompt =
          ⟨some (.chatFailed reason), last.ctx.say (.user setup.summarizePrompt), after⟩ := by
        rw [Stop.close, if_pos (by simpa using ht), Stop.summarize]
        simp only [Context.complete, Context.say, hr]
      have hends : Ends c last begun ⟨none, last.ctx, last.world⟩ := by
        obtain ⟨frames, ctx, world', turn⟩ := last
        rcases hend with ⟨hnil, rfl⟩ | ⟨rest, frames', hhalt, rfl⟩
        · cases hnil
          exact .finished hc
        · cases hhalt
          exact .halted hc rfl
      obtain ⟨hstop, hbegun⟩ := stop_of_completes hv h hends
      rw [hstop, hbegun, hclose]
      exact ⟨⟨_, last.ctx.say _, rfl, rfl, rfl, rfl, rfl⟩, rfl⟩

theorem FailsWith.run
    (h : script.FailsWith c setup input world kind message ctx after dispatched call) :
    script.run c setup input world =
      (⟨ctx.finalText, ctx.vars.snapshot, some ⟨.execution, message, .obj [("kind", .str kind)]⟩⟩,
        after) := by
  obtain ⟨⟨e, left, rfl, rfl, htext, hvars, hstop⟩, -⟩ := h.stop
  rw [Script.run, hstop, Stop.result, htext, hvars]
  rfl

theorem FailsWith.watched
    (h : script.FailsWith c setup input world kind message ctx after dispatched call) :
    ∃ calls, script.FailsWith c.watched setup input (world, []) kind message ctx (after, calls)
        dispatched call ∧
      ∀ k ∈ call, ∃ earlier, calls = earlier ++ [k] := by
  cases h with
  | check h => exact ⟨[], .check h, nofun⟩
  | cancelled hv h hc =>
      obtain ⟨calls, h'⟩ := h.watched []
      exact ⟨calls, .cancelled hv h' hc, nofun⟩
  | step hv h hc hf =>
      obtain ⟨calls, h'⟩ := h.watched []
      obtain ⟨earlier, hf'⟩ := hf.watched calls
      refine ⟨_, .step hv h' hc hf', ?_⟩
      rintro k ⟨⟩
      exact ⟨earlier, rfl⟩
  | @summary done begun last reason after hv h hc hend ht hr =>
      obtain ⟨calls, h'⟩ := h.watched []
      let log := last.ctx.log ++ [.user setup.summarizePrompt]
      have hr' : c.watched.complete log (last.world, calls) =
          (.error reason, after, calls ++ [.complete log]) := by
        rw [Collaborators.watched_complete, hr]
      refine ⟨calls ++ [Call.complete log], .summary hv h' hc hend ht hr', ?_⟩
      rintro k ⟨⟩
      exact ⟨calls, rfl⟩

/-- Closing a run adds no error but that of a summary which is not given. -/
theorem error_of_close {stop : Stop σ} {prompt : String} {e : RunError}
    (h : (stop.close c prompt).error = some e) :
    stop.error = some e ∨ ∃ reason after, stop.error = none ∧
      Text.showsNothing stop.ctx.finalText = true ∧
      c.complete (stop.ctx.log ++ [.user prompt]) stop.world = (.error reason, after) := by
  unfold Stop.close at h
  split at h
  · rename_i ht
    simp only [Bool.and_eq_true, Option.isNone_iff_eq_none] at ht
    rw [Stop.summarize, Context.complete] at h
    rcases hr : c.complete (stop.ctx.say (.user prompt)).log stop.world
      with ⟨reason | reply, after⟩
    · exact .inr ⟨reason, after, ht.1, ht.2, hr⟩
    · simp only [hr] at h
      cases h
  · exact .inl h

theorem exists_failsWith {failure : Failure}
    (h : (script.run c setup input world).1.error = some failure) :
    ∃ kind message ctx after dispatched call,
      script.FailsWith c setup input world kind message ctx after dispatched call := by
  have hstopped : ∃ e, (script.stop c setup input world).error = some e := by
    obtain ⟨e, he, -⟩ := Option.map_eq_some_iff.1 h
    exact ⟨e, he⟩
  cases hv : script.validate with
  | error reason => exact ⟨_, _, _, _, _, _, .check hv⟩
  | ok _ =>
      obtain ⟨done, last, begun, hdone, hends, -⟩ :=
        Machine.exists_completes_ends c (script.machine setup input world)
      generalize Machine.walk c _ = reached at hends
      obtain ⟨hstop, -⟩ := stop_of_completes hv hdone hends
      rw [hstop] at hstopped
      obtain ⟨e, he⟩ := hstopped
      have hclose := error_of_close he
      have hsteps : Step.validateAll last.steps = .ok () := by
        refine hdone.validateAll ?_
        rw [machine, Machine.steps_start]
        exact hv
      cases hends with
      | cancelled hc => exact ⟨_, _, _, _, _, _, .cancelled hv hdone hc⟩
      | failed hc hd =>
          obtain ⟨call, kind, message, hf⟩ :=
            Step.exists_fails (Step.validateAll_cons_eq_ok_iff.1 hsteps).1 hd
          exact ⟨_, _, _, _, _, _, .step hv hdone hc hf⟩
      | finished hc =>
          rcases hclose with hnone | ⟨reason, after, -, ht, hr⟩
          · cases hnone
          · exact ⟨_, _, _, _, _, _, .summary hv hdone hc (.inl ⟨rfl, rfl⟩) ht hr⟩
      | halted hc hd =>
          obtain ⟨rfl, rfl, rfl⟩ := Step.eq_halt_of_dispatch hd
          rcases hclose with hnone | ⟨reason, after, -, ht, hr⟩
          · cases hnone
          · exact ⟨_, _, _, _, _, _, .summary hv hdone hc (.inr ⟨_, _, rfl, rfl⟩) ht hr⟩

/-- A step that fails leaves the context that it was begun in, and a run with an error fails in one
of the ways of `FailsWith`. It reports an error of that kind; its variables and its text are those
that the completed steps came to, and no step is begun after the one that fails. In a watched world
it fails in the same way, so it has made the calls of the steps that it began and no others, and the
call that fails is the last one. Where a run finds behind a step that succeeded that it was told to
stop, it is cancelled there. -/
theorem run_error_keeps_completed (script : Script) (c : Collaborators σ) (setup : RunSetup)
    (input : Fields) (world : σ) :
    (∀ (s : Step) (ctx after : Context) (before world' : σ) (e : RunError),
      s.dispatch c ctx before = ⟨.error e, after, world'⟩ → after = ctx) ∧
    (∀ failure, (script.run c setup input world).1.error = some failure →
      ∃ kind message ctx after dispatched call,
        script.FailsWith c setup input world kind message ctx after dispatched call) ∧
    (∀ kind message ctx after dispatched call,
      script.FailsWith c setup input world kind message ctx after dispatched call →
        script.run c setup input world =
          (⟨ctx.finalText, ctx.vars.snapshot,
            some ⟨.execution, message, .obj [("kind", .str kind)]⟩⟩, after) ∧
        script.dispatched c setup input world = dispatched ∧
        ∃ calls,
          script.FailsWith c.watched setup input (world, []) kind message ctx (after, calls)
            dispatched call ∧
          (script.run c.watched setup input (world, [])).2 = (after, calls) ∧
          ∀ k ∈ call, ∃ earlier, calls = earlier ++ [k]) ∧
    ∀ done s rest frames ctx before turn after world', script.validate = .ok () →
      Completes c (script.machine setup input world) done
        ⟨(s :: rest) :: frames, ctx, before, turn⟩ →
      c.stopsAt turn before = false →
      s.dispatch c ctx before = ⟨.ok .onward, after, world'⟩ →
      c.stopsAt (turn + 1) world' = true →
        script.run c setup input world =
          (⟨after.finalText, after.vars.snapshot,
            some ⟨.execution, "execution cancelled", .obj [("kind", .str "cancelled")]⟩⟩,
            world') ∧
        script.dispatched c setup input world = done ++ [s] := by
  refine ⟨?_, ?_, ?_, ?_⟩
  · intro s ctx after before world' e h
    exact Step.ctx_of_failed h
  · intro failure h
    exact exists_failsWith h
  · intro kind message ctx after dispatched call h
    obtain ⟨calls, hwatched, hlast⟩ := h.watched
    exact ⟨h.run, h.stop.2, calls, hwatched, by rw [hwatched.run], hlast⟩
  · intro done s rest frames ctx before turn after world' hv h hc hd hstopped
    have hdone := h.snoc (.onward hc hd)
    have hfails : script.FailsWith c setup input world "cancelled" "execution cancelled" after
        world' (done ++ [s]) none := .cancelled hv hdone hstopped
    exact ⟨hfails.run, hfails.stop.2⟩

/-- A world that has only one tool, `a.b`, which answers null and tells the run to stop when it is
called for the second time. -/
def oneTool : Collaborators Nat where
  complete _ world := (.ok "", world)
  resolve space _ world :=
    (if space = "a" then some ⟨[], fun _ world => (.ok .null, world + 1)⟩ else none, world)
  cancelled world := world == 2

/-- The same world, where others tell the run to stop before it takes its second turn. -/
def hurried : Collaborators Nat := { oneTool with interrupted := fun turn => turn == 1 }

/-- The missing tool leaves what the first call has bound; a second call in its place stops the run
in front of the text. Others stop a run between two steps that make no call. -/
theorem run_oneTool :
    let bind (name : String) : ToolCall :=
      { recipient := "a.b", channel := "commentary", saveAs := name }
    let missing : ToolCall := { recipient := "c.d", channel := "commentary", saveAs := "y" }
    let text : Step := .say { channel := "final", content := some "done" }
    let failing : Script := { steps := [.tool (bind "x"), .tool missing, text] }
    let stopping : Script := { steps := [.tool (bind "x"), .tool (bind "z"), text] }
    let first : Step := .extract [("x", "one")]
    let extracting : Script := { steps := [first, .extract [("x", "two")], text] }
    let cancelled : Failure :=
      ⟨.execution, "execution cancelled", .obj [("kind", .str "cancelled")]⟩
    (∃ kind message ctx after dispatched call,
      failing.FailsWith oneTool {} [] 0 kind message ctx after dispatched call) ∧
    failing.run oneTool {} [] 0 = (⟨"", [("x", .null)], some
      ⟨.execution, "tool 'c.d' not found", .obj [("kind", .str "tool_not_found")]⟩⟩, 1) ∧
    failing.dispatched oneTool {} [] 0 = [.tool (bind "x"), .tool missing] ∧
    stopping.run oneTool {} [] 0 = (⟨"", [("x", .null), ("z", .null)], some cancelled⟩, 2) ∧
    stopping.dispatched oneTool {} [] 0 = [.tool (bind "x"), .tool (bind "z")] ∧
    extracting.run hurried {} [] 0 = (⟨"", [("x", .str "one")], some cancelled⟩, 0) ∧
    extracting.dispatched hurried {} [] 0 = [first] := by
  intro bind missing text failing stopping first extracting cancelled
  have hfound : splitRecipient? "a.b" = some ("a", "b") := by decide +kernel
  have hother : splitRecipient? "c.d" = some ("c", "d") := by decide +kernel
  have hcall (name : String) (ctx : Context) (world : Nat) :
      (Step.tool (bind name)).dispatch oneTool ctx world =
        ⟨.ok .onward, (bind name).record .null ctx, world + 1⟩ := by
    rw [Step.dispatch, ToolCall.perform, hfound]
    rfl
  let bound := (bind "x").record .null {}
  have hfailing : failing.validate = .ok () := toOption_eq_some_iff.1 (by decide +kernel)
  have hstopping : stopping.validate = .ok () := toOption_eq_some_iff.1 (by decide +kernel)
  have hextracting : extracting.validate = .ok () := toOption_eq_some_iff.1 (by decide +kernel)
  have hdone (rest : List Step) : Completes oneTool (.start (.tool (bind "x") :: rest) {} 0)
      [.tool (bind "x")] ⟨[rest], bound, 1, 1⟩ :=
    .step (.onward rfl (hcall "x" {} 0)) (.none _)
  have hnot : (Step.tool missing).Fails oneTool bound 1 (.resolve "c" "d") "tool_not_found"
      ("tool '" ++ "c.d" ++ "' not found") 1 := .notFound hother rfl
  have hfails : failing.FailsWith oneTool {} [] 0 "tool_not_found"
      ("tool '" ++ "c.d" ++ "' not found") bound 1 ([.tool (bind "x")] ++ [.tool missing])
      (some (.resolve "c" "d")) :=
    .step hfailing (hdone [.tool missing, text]) rfl hnot
  obtain ⟨-, hways, hreports, -⟩ := run_error_keeps_completed failing oneTool {} [] 0
  have hrun := hreports _ _ _ _ _ _ hfails
  have hstop := (run_error_keeps_completed stopping oneTool {} [] 0).2.2.2 _ _ _ _ _ _ _ _ _
    hstopping (hdone [.tool (bind "z"), text]) rfl (hcall "z" bound 1) rfl
  have hbetween := (run_error_keeps_completed extracting hurried {} [] 0).2.2.2 _ _ _ _ _ _ _ _ _
    hextracting (.none _) rfl rfl rfl
  refine ⟨hways _ (by rw [hrun.1]), ?_, hrun.2.1, ?_, hstop.2, ?_, hbetween.2⟩
  · rw [hrun.1]
    decide +kernel
  · rw [hstop.1]
    decide +kernel
  · rw [hbetween.1]
    decide +kernel

end Script

end Dialogue
