import Dialogue.Proofs.Run.Effect
import Dialogue.Proofs.Run.Envelope
import Dialogue.Proofs.Run.Logs
import Mathlib.Data.List.Infix

/-!
# What the chat model is shown

From a visit it can be told which turns the step adds to the conversation: the result of a call that
succeeds, and what is thought unless it is blank. Nothing else adds a turn, so at each visit the
conversation is the history with the turns of the visits before it.

The model is shown the conversation where a visit asks for it, and once more, with the prompt behind
it, if the run is closed with a summary. An envelope gives a run its messages as history, all but
the script.
-/
namespace Dialogue

variable {σ : Type} {c : Collaborators σ}

namespace Visit

/-- The turns that the step adds to the conversation. -/
def turns (c : Collaborators σ) (v : Visit σ) : List ChatTurn :=
  match v.step with
  | .tool call =>
      match splitRecipient? call.recipient with
      | none => []
      | some (space, function) =>
          match c.call space function (call.preparedArgs v.ctx) v.world with
          | (some (.ok result), _) =>
              [{ role := .tool, content := result.compact, name := some call.recipient }]
          | _ => []
  | .say u =>
      if u.channel = "analysis" ∧ Text.showsNothing (u.text v.ctx) = false then
        [{ role := .assistant, content := u.text v.ctx, name := none }]
      else []
  | _ => []

end Visit

namespace Step
variable {s : Step} {ctx : Context} {world : σ}

theorem speechChannel?_of_validate {u : Utterance} (h : (say u).validate = .ok ()) :
    u.speechChannel? ≠ none := by
  rw [validate, check, checkUtterance] at h
  split at h
  · cases h
  · rename_i hs
    rw [Option.isNone_iff_eq_none] at hs
    exact hs

theorem log_tool (call : ToolCall) :
    ((tool call).dispatch c ctx world).ctx.log =
      ctx.log ++ Visit.turns c ⟨tool call, ctx, world⟩ := by
  rw [dispatch, ToolCall.perform_eq_call, Visit.turns]
  dsimp only
  cases splitRecipient? call.recipient with
  | none => exact (List.append_nil _).symm
  | some recipient =>
      obtain ⟨space, function⟩ := recipient
      dsimp only
      rcases c.call space function (call.preparedArgs ctx) world with ⟨_ | _ | result, world'⟩
      · exact (List.append_nil _).symm
      · exact (List.append_nil _).symm
      · rfl

theorem log_say {u : Utterance} (hu : u.speechChannel? ≠ none) :
    ((say u).dispatch c ctx world).ctx.log = ctx.log ++ Visit.turns c ⟨say u, ctx, world⟩ := by
  rw [dispatch, Utterance.perform, Visit.turns]
  dsimp only
  rw [Utterance.speechChannel?] at hu ⊢
  by_cases hanalysis : u.channel = "analysis"
  · simp only [hanalysis, if_true, true_and]
    cases Text.showsNothing (u.text ctx) with
    | true => exact (List.append_nil _).symm
    | false => rfl
  · -- What is said on the other channel is no turn, nor is the reply of the model.
    have hsilent : ¬ (u.channel = "analysis" ∧ Text.showsNothing (u.text ctx) = false) :=
      fun h => hanalysis h.1
    rw [if_neg hanalysis] at hu ⊢
    have hfinal : u.channel = "final" := by
      by_contra hother
      exact hu (if_neg hother)
    rw [if_neg hsilent, List.append_nil, if_pos hfinal]
    dsimp only
    split
    · rfl
    · rw [Context.complete]
      rcases c.complete ctx.log world with ⟨_ | reply, world'⟩ <;> rfl

/-- Whatever comes of a step, it leaves the conversation with its turns behind the others. -/
theorem log_of_dispatch {rest : List Step} {effect : Effect σ Flow}
    (hv : validateAll (s :: rest) = .ok ()) (h : s.dispatch c ctx world = effect) :
    effect.ctx.log = ctx.log ++ Visit.turns c ⟨s, ctx, world⟩ := by
  obtain ⟨hs, -⟩ := validateAll_cons_eq_ok_iff.1 hv
  subst h
  cases s with
  | extract output =>
      rw [dispatch, ctx.extract_eq]
      exact (List.append_nil _).symm
  | tool call => exact log_tool call
  | branch condition onTrue onFalse => exact (List.append_nil _).symm
  | say u => exact log_say (speechChannel?_of_validate hs)
  | halt => exact (List.append_nil _).symm

end Step

section
variable {here next : Machine σ} {s : Step} {begun : List Step} {stop : Stop σ}

theorem Next.log (h : Next c here s next) (hv : Step.validateAll here.steps = .ok ()) :
    next.ctx.log = here.ctx.log ++ (here.visit s).turns c := by
  cases h with
  | onward _ h => exact Step.log_of_dispatch hv h
  | enter _ h => exact Step.log_of_dispatch hv h

theorem Ends.log (h : Ends c here begun stop) (hv : Step.validateAll here.steps = .ok ()) :
    stop.ctx.log = here.ctx.log ++ (begun.map here.visit).flatMap (Visit.turns c) := by
  cases h with
  | cancelled _ => exact (List.append_nil _).symm
  | finished _ => exact (List.append_nil _).symm
  | halted _ h =>
      rw [List.map_singleton, List.flatMap_singleton]
      exact Step.log_of_dispatch hv h
  | failed _ h =>
      rw [List.map_singleton, List.flatMap_singleton]
      exact Step.log_of_dispatch hv h

end

/-- The conversation at each visit and at the stop has the turns of the visits before it, and no
others. -/
structure Accumulates (c : Collaborators σ) (here : Machine σ) (visits : List (Visit σ))
    (stop : Stop σ) : Prop where
  stop : stop.ctx.log = here.ctx.log ++ visits.flatMap (Visit.turns c)
  visit {i : Nat} {v : Visit σ} (h : visits[i]? = some v) :
    v.ctx.log = here.ctx.log ++ (visits.take i).flatMap (Visit.turns c)

theorem Machine.accumulates {m : Machine σ} (hv : Step.validateAll m.steps = .ok ()) :
    Accumulates c m (m.visits c) (m.walk c) := by
  revert hv
  refine m.walk_induction (c := c) (P := fun here visits stop =>
    Step.validateAll here.steps = .ok () → Accumulates c here visits stop) ?_ ?_ ?_
  · intro here begun stop h hv
    refine ⟨h.log hv, ?_⟩
    intro i v hi
    rcases h.begun_eq with rfl | ⟨s, -, -, rfl⟩
    · cases hi
    · cases i with
      | zero =>
          cases hi
          exact (List.append_nil _).symm
      | succ i => cases hi
  · intro here after visits stop h ih hv
    obtain ⟨hsteps, hctx⟩ := h.same
    have hrest := ih (by rwa [hsteps])
    refine ⟨?_, ?_⟩
    · rw [hrest.stop, hctx]
    · intro i v hi
      rw [hrest.visit hi, hctx]
  · intro here s after visits stop hnext ih hv
    have hrest := ih (hnext.validateAll hv)
    refine ⟨?_, ?_⟩
    · rw [hrest.stop, hnext.log hv, List.flatMap_cons, List.append_assoc]
    · intro i v hi
      cases i with
      | zero =>
          cases hi
          exact (List.append_nil _).symm
      | succ i =>
          rw [List.getElem?_cons_succ] at hi
          rw [hrest.visit hi, hnext.log hv, List.take_succ_cons, List.flatMap_cons,
            List.append_assoc]

namespace Script

/-- The conversations that a run of the script shows to the chat model, in order. -/
def shown (script : Script) (c : Collaborators σ) (setup : RunSetup) (input : Fields)
    (world : σ) : List (List ChatTurn) :=
  (script.run c.watched setup input (world, [])).2.2.filterMap Call.log?

section
variable (script : Script) (c : Collaborators σ) (setup : RunSetup) (input : Fields) (world : σ)

theorem validateAll_machine (hv : script.validate = .ok ()) :
    Step.validateAll (script.machine setup input world).steps = .ok () := by
  rw [machine, Machine.steps_start]
  exact hv

theorem log_of_visits {i : Nat} {v : Visit σ}
    (h : (script.visits c setup input world)[i]? = some v) :
    v.ctx.log = setup.history ++
      ((script.visits c setup input world).take i).flatMap (Visit.turns c) := by
  cases hv : script.validate with
  | error _ =>
      rw [visits, hv] at h
      cases h
  | ok _ =>
      unfold visits at h ⊢
      rw [hv] at h ⊢
      exact (Machine.accumulates (script.validateAll_machine setup input world hv)).visit h

/-- The model is shown the conversation at each visit that asks for it, and last for a summary. -/
theorem shown_eq :
    script.shown c setup input world =
      ((script.visits c setup input world).filter Visit.asks).map (·.ctx.log) ++
        if script.summarized c setup input world then
          [setup.history ++ (script.visits c setup input world).flatMap (Visit.turns c) ++
            [{ role := .user, content := setup.summarizePrompt, name := none }]]
        else [] := by
  rw [shown, ← calls]
  cases hv : script.validate with
  | error _ =>
      obtain ⟨hcalls, hvisits⟩ := script.calls_of_error c setup input world hv
      rw [hcalls, hvisits, summarized, hv]
      rfl
  | ok _ =>
      have hlog := (Machine.accumulates (c := c)
        (script.validateAll_machine setup input world hv)).stop
      rw [script.calls_eq c setup input world hv, List.filterMap_append, Visit.flatMap_calls_log?,
        Stop.closingCalls, hlog]
      unfold summarized visits
      rw [hv]
      dsimp only
      split <;> rfl

theorem history_isPrefix_log {v : Visit σ} (h : v ∈ script.visits c setup input world) :
    setup.history <+: v.ctx.log := by
  obtain ⟨i, hi⟩ := List.mem_iff_getElem?.1 h
  rw [script.log_of_visits c setup input world hi]
  exact List.prefix_append _ _

theorem log_isPrefix_log :
    (script.visits c setup input world).Pairwise fun v w => v.ctx.log <+: w.ctx.log := by
  rw [List.pairwise_iff_getElem]
  intro i j hi hj hij
  have htake : (script.visits c setup input world).take i <+:
      (script.visits c setup input world).take j := List.take_prefix_take_left (Nat.le_of_lt hij)
  rw [script.log_of_visits c setup input world (List.getElem?_eq_getElem hi),
    script.log_of_visits c setup input world (List.getElem?_eq_getElem hj)]
  exact (List.prefix_append_right_inj _).2 (htake.flatMap _)

theorem log_isPrefix_turns {v : Visit σ} (h : v ∈ script.visits c setup input world) :
    v.ctx.log <+:
      setup.history ++ (script.visits c setup input world).flatMap (Visit.turns c) := by
  obtain ⟨i, hi⟩ := List.mem_iff_getElem?.1 h
  rw [script.log_of_visits c setup input world hi]
  exact (List.prefix_append_right_inj _).2 ((List.take_prefix i _).flatMap _)

theorem history_isPrefix_shown {log : List ChatTurn}
    (h : log ∈ script.shown c setup input world) : setup.history <+: log := by
  rw [shown_eq] at h
  rcases List.mem_append.1 h with h | h
  · obtain ⟨v, hv, rfl⟩ := List.mem_map.1 h
    exact script.history_isPrefix_log c setup input world (List.mem_of_mem_filter hv)
  · split at h
    · rw [List.mem_singleton.1 h, List.append_assoc]
      exact List.prefix_append _ _
    · cases h

theorem pairwise_shown : (script.shown c setup input world).Pairwise (· <+: ·) := by
  rw [shown_eq, List.pairwise_append]
  refine ⟨?_, ?_, ?_⟩
  · rw [List.pairwise_map]
    exact (script.log_isPrefix_log c setup input world).filter _
  · split
    · exact List.pairwise_singleton _ _
    · exact .nil
  · intro log hlog last hlast
    obtain ⟨v, hv, rfl⟩ := List.mem_map.1 hlog
    split at hlast
    · rw [List.mem_singleton.1 hlast]
      exact (script.log_isPrefix_turns c setup input world (List.mem_of_mem_filter hv)).trans
        (List.prefix_append _ _)
    · cases hlast

end

end Script

/-- The text that a content is shown as: a string as it is, and other JSON in compact form. -/
inductive Json.ShownAs : Json → String → Prop
  | text (s : String) : ShownAs (.str s) s
  | json {j : Json} (h : ∀ s, j ≠ .str s) : ShownAs j j.compact

theorem Json.shownAs_iff {j : Json} {content : String} :
    j.ShownAs content ↔ j.asString?.getD j.compact = content := by
  constructor
  · intro h
    cases h with
    | text s => rfl
    | json h =>
        cases j with
        | str s => exact absurd rfl (h s)
        | _ => rfl
  · rintro rfl
    cases j with
    | str s => exact .text s
    | _ => exact .json nofun

namespace Message

variable {m : Message} {turn : ChatTurn}

/-- The turn that a message is in a conversation. A role that is none of the known ones, in any
ASCII letter case, is the name of a tool. -/
inductive SpokenAs (m : Message) : ChatTurn → Prop
  | system {content : String} (hr : m.role.toLower ∈ ["system", "developer"])
      (hc : m.content.ShownAs content) : SpokenAs m { role := .system, content, name := none }
  | user {content : String} (hr : m.role.toLower = "user") (hc : m.content.ShownAs content) :
      SpokenAs m { role := .user, content, name := none }
  | assistant {content : String} (hr : m.role.toLower = "assistant")
      (hc : m.content.ShownAs content) : SpokenAs m { role := .assistant, content, name := none }
  | tool {content : String} (hr : m.role.toLower ∉ ["system", "developer", "user", "assistant"])
      (hc : m.content.ShownAs content) : SpokenAs m { role := .tool, content, name := some m.role }

theorem spokenAs_iff : m.SpokenAs turn ↔ m.turn = turn := by
  constructor
  · intro h
    rw [Message.turn]
    cases h with
    | system hr hc =>
        rw [Json.shownAs_iff] at hc
        rcases List.mem_pair.1 hr with hr | hr <;> rw [hr, hc] <;> rfl
    | user hr hc =>
        rw [Json.shownAs_iff] at hc
        rw [hr, hc]
        rfl
    | assistant hr hc =>
        rw [Json.shownAs_iff] at hc
        rw [hr, hc]
        rfl
    | tool hr hc =>
        rw [Json.shownAs_iff] at hc
        rw [hc]
        split
        all_goals first | rfl | exact absurd (by simp [*]) hr
  · rintro rfl
    have hc : m.content.ShownAs (m.content.asString?.getD m.content.compact) :=
      Json.shownAs_iff.2 rfl
    rw [Message.turn]
    split
    · rename_i hr
      exact .system (by rw [hr]; decide) hc
    · rename_i hr
      exact .system (by rw [hr]; decide) hc
    · rename_i hr
      exact .user hr hc
    · rename_i hr
      exact .assistant hr hc
    · rename_i hsystem hdeveloper huser hassistant
      refine .tool ?_ hc
      simpa using ⟨hsystem, hdeveloper, huser, hassistant⟩

theorem forall₂_spokenAs_iff {messages : List Message} {turns : List ChatTurn} :
    List.Forall₂ SpokenAs messages turns ↔ messages.map Message.turn = turns := by
  constructor
  · intro h
    induction h with
    | nil => rfl
    | cons hm _ ih => rw [List.map_cons, spokenAs_iff.1 hm, ih]
  · rintro rfl
    rw [List.forall₂_map_right_iff, List.forall₂_same]
    intro m _
    exact spokenAs_iff.2 rfl

end Message

namespace Envelope

variable {e : Envelope} {script : Script}

/-- The conversations that a run of the envelope shows to the chat model, in order. -/
def shown (checks : StructureChecks) (options : ValidationOptions) (c : Collaborators σ)
    (setup : RunSetup) (input : Fields) (world : σ) (e : Envelope) : List (List ChatTurn) :=
  (e.run checks options c.watched setup input (world, [])).2.2.filterMap Call.log?

/-- The script stands in one of the messages, and all the others are spoken. -/
theorem exists_of_script (h : e.script = .ok (some script)) :
    ∃ before m after, e.messages = before ++ m :: after ∧
      (∀ other ∈ before, isScriptMessage other = false) ∧ isScriptMessage m = true ∧
      Script.ofJson m.content = .ok script ∧ e.spoken = before ++ after := by
  rw [Envelope.script] at h
  split at h
  · cases h
  · rename_i m hfound
    obtain ⟨hm, before, after, hsplit, hbefore⟩ := List.find?_eq_some_iff_append.1 hfound
    have hother : ∀ other ∈ before, isScriptMessage other = false := by
      intro other hmem
      simpa using hbefore other hmem
    have hindex : e.scriptIndex? = some before.length := by
      rw [scriptIndex?, hsplit, List.findIdx?_append, List.findIdx?_eq_none_iff.2 hother,
        List.findIdx?_cons, hm]
      simp
    obtain ⟨read, hread, hsome⟩ := map_eq_ok_iff.1 h
    cases hsome
    refine ⟨before, m, after, hsplit, hother, hm, hread, ?_⟩
    rw [spoken, hindex]
    dsimp only
    rw [hsplit, List.eraseIdx_append_of_length_le (Nat.le_refl _), Nat.sub_self,
      List.eraseIdx_cons_zero]

theorem shown_of_run {checks : StructureChecks} {options : ValidationOptions}
    {c : Collaborators σ} {setup : RunSetup} {input : Fields} {world : σ} {result : RunResult}
    (h : (e.run checks options c setup input world).1 = .ok result) :
    ∃ script before m after history, e.messages = before ++ m :: after ∧
      (∀ other ∈ before, isScriptMessage other = false) ∧ isScriptMessage m = true ∧
      Script.ofJson m.content = .ok script ∧
      List.Forall₂ Message.SpokenAs (before ++ after) history ∧
      result = (script.run c { setup with history } input world).1 ∧
      e.shown checks options c setup input world =
        script.shown c { setup with history } input world := by
  cases hr : e.runnable checks options with
  | error failure =>
      rw [run_of_runnable_error checks options c setup input world e hr] at h
      cases h
  | ok script =>
      obtain ⟨before, m, after, hsplit, hother, hm, hread, hspoken⟩ :=
        exists_of_script (script_of_runnable hr)
      have hturns : List.Forall₂ Message.SpokenAs (before ++ after) e.conversation := by
        rw [Message.forall₂_spokenAs_iff, conversation, hspoken]
      refine ⟨script, before, m, after, e.conversation, hsplit, hother, hm, hread, hturns, ?_, ?_⟩
      · rw [run_of_runnable_ok checks options c setup input world e hr] at h
        cases h
        rfl
      · rw [shown, run, hr, Script.shown]

end Envelope

/-- The conversations that a run shows to the model all begin with the history, and each begins with
the one before. At a visit that asks for it the model is shown the history with the turns of the
visits before; for a summary, which comes last, it is shown the turns of all visits and the prompt.
The history of an envelope has one turn for each message but the script, in their order. -/
theorem shown_grows_by_turns (c : Collaborators σ) (setup : RunSetup) (input : Fields)
    (world : σ) :
    (∀ script : Script,
      let visits := script.visits c setup input world
      let shown := script.shown c setup input world
      visits.map Visit.step = script.dispatched c setup input world ∧
        (∀ i v, visits[i]? = some v →
          v.ctx.log = setup.history ++ (visits.take i).flatMap (Visit.turns c)) ∧
        shown = (visits.filter Visit.asks).map (·.ctx.log) ++
          (if script.summarized c setup input world then
            [setup.history ++ visits.flatMap (Visit.turns c) ++
              [{ role := .user, content := setup.summarizePrompt, name := none }]]
          else []) ∧
        (∀ log ∈ shown, setup.history <+: log) ∧ shown.Pairwise (· <+: ·)) ∧
    ∀ (e : Envelope) (checks : StructureChecks) (options : ValidationOptions)
      (result : RunResult), (e.run checks options c setup input world).1 = .ok result →
      ∃ script before m after history, e.messages = before ++ m :: after ∧
        (∀ other ∈ before, Envelope.isScriptMessage other = false) ∧
        Envelope.isScriptMessage m = true ∧ Script.ofJson m.content = .ok script ∧
        List.Forall₂ Message.SpokenAs (before ++ after) history ∧
        result = (script.run c { setup with history } input world).1 ∧
        e.shown checks options c setup input world =
          script.shown c { setup with history } input world := by
  refine ⟨?_, ?_⟩
  · intro script
    refine ⟨script.visits_map_step c setup input world, ?_, script.shown_eq c setup input world,
      ?_, script.pairwise_shown c setup input world⟩
    · intro i v hv
      exact script.log_of_visits c setup input world hv
    · intro log hlog
      exact script.history_isPrefix_shown c setup input world hlog
  · intro e checks options result h
    exact Envelope.shown_of_run h

/-- A call, a thought, a blank thought and a text that says nothing. -/
def musing : Script :=
  { steps := [.tool { recipient := "a.b", channel := "commentary", saveAs := "x" },
      .say { channel := "analysis", content := some "null it is" },
      .say { channel := "analysis", content := some " " },
      .say { channel := "final", content := some "" }] }

/-- The script stands between the two other messages. -/
def musingAloud : Envelope :=
  ⟨"1.0", [{ role := "developer", content := .str "be brief" },
    { role := "system", contentType := some "harmony-script", content := musing.toJson },
    { role := "user", content := .str "hi" }]⟩

/-- The model gives no text, neither for the last step nor as a summary. -/
theorem shown_musing :
    let accepting : StructureChecks := ⟨fun _ => none, fun _ => none⟩
    let history : List ChatTurn := [{ role := .system, content := "be brief", name := none },
      { role := .user, content := "hi", name := none }]
    let noted : List ChatTurn := [{ role := .tool, content := "null", name := some "a.b" },
      { role := .assistant, content := "null it is", name := none }]
    let prompt : ChatTurn :=
      { role := .user, content := "Summarize the results above.", name := none }
    (∃ v, (musing.visits answeringNull { history } [] ())[3]? = some v ∧
      v.ctx.log = history ++ noted) ∧
    musing.shown answeringNull { history } [] () =
      [history ++ noted, history ++ noted ++ [prompt]] ∧
    ∃ result, (musingAloud.run accepting {} answeringNull {} [] ()).1 = .ok result ∧
      musingAloud.shown accepting {} answeringNull {} [] () =
        [history ++ noted, history ++ noted ++ [prompt]] := by
  intro accepting history noted prompt
  have hmusing : musing.shown answeringNull { history } [] () =
      [history ++ noted, history ++ noted ++ [prompt]] := by
    obtain ⟨-, -, hshown, -⟩ :=
      (shown_grows_by_turns answeringNull { history } [] ()).1 musing
    exact hshown.trans (by decide +kernel)
  have hrunnable : musingAloud.runnable accepting {} = .ok musing :=
    toOption_eq_some_iff.1 (by decide +kernel)
  have hresult := Envelope.run_of_runnable_ok accepting {} answeringNull {} [] () musingAloud
    hrunnable
  refine ⟨?_, hmusing, _, hresult, ?_⟩
  · obtain ⟨-, hlogs, -⟩ := (shown_grows_by_turns answeringNull { history } [] ()).1 musing
    obtain ⟨v, hv⟩ : ∃ v, (musing.visits answeringNull { history } [] ())[3]? = some v :=
      Option.isSome_iff_exists.1 (by decide +kernel)
    exact ⟨v, hv, (hlogs 3 v hv).trans (by decide +kernel)⟩
  · obtain ⟨script, before, m, after, spoken, hsplit, hbefore, hm, hread, hspoken, -, hsame⟩ :=
      (shown_grows_by_turns answeringNull {} [] ()).2 musingAloud accepting {} _ hresult
    -- The first message is no script and the second is one, so the split is behind the first.
    rcases before with _ | ⟨first, _ | ⟨second, before⟩⟩
    · cases hsplit
      exact absurd hm (by decide +kernel)
    · cases hsplit
      have hscript : Script.ofJson musing.toJson = .ok musing :=
        toOption_eq_some_iff.1 (by decide +kernel)
      rw [hscript] at hread
      cases hread
      have hhistory : spoken = history :=
        (Message.forall₂_spokenAs_iff.1 hspoken).symm.trans (by decide +kernel)
      rw [hsame, hhistory]
      exact hmusing
    · have hsecond := (List.cons.inj (List.cons.inj hsplit).2).1
      have hno := hbefore second (List.mem_cons_of_mem _ List.mem_cons_self)
      rw [← hsecond] at hno
      exact absurd hno (by decide +kernel)

end Dialogue
