import Dialogue.Proofs.Run.Failure
import Dialogue.Proofs.Validation.Report
import Dialogue.Run.Envelope

/-!
# Running an envelope that was validated

Validation reads every message that is called a script, whatever its role is. The script of a valid
envelope is one of these, so it can be read; and because steps are checked when they are read, it
passes the rules that a run checks once more. What is left to go wrong when a valid envelope is run
is that it holds no script, which is told before anything is asked of the world, and that a call
fails or the run is cancelled, which the result tells.
-/
namespace Dialogue

variable {σ : Type} {c : Collaborators σ}

theorem Step.Fails.kind_ne {s : Step} {ctx : Context} {world after : σ} {call : Call}
    {kind message : String} (h : s.Fails c ctx world call kind message after) :
    kind ≠ "invalid_script" ∧ kind ≠ "invalid_recipient" := by
  cases h <;> exact ⟨by decide, by decide⟩

theorem Script.FailsWith.kind_ne {script : Script} {setup : RunSetup} {input : Fields}
    {world after : σ} {kind message : String} {ctx : Context} {dispatched : List Step}
    {call : Option Call}
    (h : script.FailsWith c setup input world kind message ctx after dispatched call)
    (hv : script.validate = .ok ()) : kind ≠ "invalid_script" ∧ kind ≠ "invalid_recipient" := by
  cases h with
  | check h =>
      rw [hv] at h
      cases h
  | cancelled _ _ _ => exact ⟨by decide, by decide⟩
  | step _ _ _ hf => exact hf.kind_ne
  | summary _ _ _ _ _ _ => exact ⟨by decide, by decide⟩

namespace Envelope

variable {checks : StructureChecks} {options : ValidationOptions} {e : Envelope} {script : Script}
variable {failure : Failure}

theorem isScriptMessage_iff {m : Message} :
    isScriptMessage m = true ↔
      Text.sameIgnoringAsciiCase m.role "system" = true ∧
        m.contentType = some "harmony-script" := by
  rw [isScriptMessage, Message.isScript, Bool.and_eq_true, beq_iff_eq]

theorem script_eq_ok_none_iff :
    e.script = .ok none ↔ ∀ m ∈ e.messages,
      ¬ (Text.sameIgnoringAsciiCase m.role "system" = true ∧
        m.contentType = some "harmony-script") := by
  simp only [← isScriptMessage_iff]
  rw [← List.find?_eq_none, ← scriptMessage?, script]
  cases e.scriptMessage? with
  | none => exact iff_of_true rfl rfl
  | some m =>
      have hne : (Script.ofJson m.content).map some ≠ .ok none := by
        cases Script.ofJson m.content <;> exact nofun
      exact iff_of_false hne nofun

theorem validate_of_script (h : e.script = .ok (some script)) : script.validate = .ok () := by
  rw [Envelope.script] at h
  split at h
  · cases h
  · obtain ⟨read, hread, hsome⟩ := map_eq_ok_iff.1 h
    cases hsome
    exact Script.validate_of_ofJson hread

/-- The content rule reads the script of a valid envelope, since it reads all messages that have its
content type. -/
theorem Valid.script_ne_error (h : e.Valid checks options) (mismatch : Json.Mismatch) :
    e.script ≠ .error mismatch := by
  intro herror
  rw [Envelope.script] at herror
  split at herror
  · cases herror
  · rename_i m hm
    have hmem : m ∈ e.messages := List.mem_of_find?_eq_some hm
    have htype : m.contentType = some "harmony-script" :=
      (isScriptMessage_iff.1 (List.find?_some hm)).2
    obtain ⟨read, hread⟩ := ((h.each m hmem).script htype).readable
    rw [hread] at herror
    cases herror

theorem code_of_failure? (h : e.failure? checks options = some failure) :
    failure.code = .schemaEnvelope ∨ failure.code = .semantic := by
  rw [failure?] at h
  split at h
  · cases h
    exact .inl rfl
  · dsimp only at h
    split at h
    · cases h
      exact .inr rfl
    · cases h

/-- An envelope is not run for one of two reasons: what validation says, or that a valid envelope
has no script. -/
theorem runnable_eq_error_iff :
    e.runnable checks options = .error failure ↔
      e.failure? checks options = some failure ∨
        (e.failure? checks options = none ∧ e.script = .ok none ∧ failure =
          { code := .execution, message := "envelope carries no harmony-script message" }) := by
  rw [runnable]
  cases hf : e.failure? checks options with
  | some other => simp
  | none =>
      have hread := (failure?_eq_none_iff.1 hf).script_ne_error
      cases hs : e.script with
      | error mismatch => exact absurd hs (hread mismatch)
      | ok found =>
          cases found with
          | none => simp [eq_comm]
          | some script => simp

theorem script_of_runnable (h : e.runnable checks options = .ok script) :
    e.script = .ok (some script) := by
  rw [runnable] at h
  split at h
  · cases h
  · split at h
    · cases h
    · cases h
    · rename_i hs
      cases h
      exact hs

section
variable (checks : StructureChecks) (options : ValidationOptions) (c : Collaborators σ)
variable (setup : RunSetup) (input : Fields) (world : σ) (e : Envelope)

theorem run_eq_error_iff :
    (e.run checks options c setup input world).1 = .error failure ↔
      e.runnable checks options = .error failure := by
  rw [run]
  cases e.runnable checks options <;> simp

theorem run_of_runnable_error (h : e.runnable checks options = .error failure) :
    e.run checks options c setup input world = (.error failure, world) := by
  rw [run, h]

theorem run_of_runnable_ok (h : e.runnable checks options = .ok script) :
    (e.run checks options c setup input world).1 =
      .ok (script.run c { setup with history := e.conversation } input world).1 := by
  rw [run, h]

/-- An envelope that is refused is refused by validation, or because it is valid and has no message
that is a script; then nothing is asked of the world. The error of an envelope that is run is never
a broken rule of its script or a recipient without two parts. -/
theorem validation_covers_run :
    (∀ failure, (e.run checks options c setup input world).1 = .error failure →
      (failure.code = .schemaEnvelope ∨ failure.code = .semantic ∨ failure.code = .execution) ∧
      e.run checks options c.watched setup input (world, []) = (.error failure, world, [])) ∧
    ((∃ failure, (e.run checks options c setup input world).1 = .error failure ∧
        failure.code = .execution) ↔
      e.failure? checks options = none ∧ ∀ m ∈ e.messages,
        ¬ (Text.sameIgnoringAsciiCase m.role "system" = true ∧
          m.contentType = some "harmony-script")) ∧
    ∀ result failure, (e.run checks options c setup input world).1 = .ok result →
      result.error = some failure →
        ∃ reason : RunError, failure = reason.failure ∧ reason.kind ≠ "invalid_script" ∧
          reason.kind ≠ "invalid_recipient" := by
  refine ⟨?_, ?_, ?_⟩
  · intro failure h
    rw [run_eq_error_iff] at h
    refine ⟨?_, run_of_runnable_error checks options c.watched setup input (world, []) e h⟩
    rcases runnable_eq_error_iff.1 h with hf | ⟨-, -, rfl⟩
    · exact (code_of_failure? hf).imp_right .inl
    · exact .inr (.inr rfl)
  · simp only [run_eq_error_iff, runnable_eq_error_iff, ← script_eq_ok_none_iff]
    constructor
    · rintro ⟨failure, hf | ⟨hf, hs, -⟩, hcode⟩
      · rcases code_of_failure? hf with hother | hother <;> rw [hother] at hcode <;> cases hcode
      · exact ⟨hf, hs⟩
    · rintro ⟨hf, hs⟩
      exact ⟨_, .inr ⟨hf, hs, rfl⟩, rfl⟩
  · intro result failure h herror
    cases hr : e.runnable checks options with
    | error other =>
        rw [run_of_runnable_error checks options c setup input world e hr] at h
        cases h
    | ok script =>
        rw [run_of_runnable_ok checks options c setup input world e hr] at h
        cases h
        have hv := validate_of_script (script_of_runnable hr)
        obtain ⟨kind, message, ctx, after, dispatched, call, hfails⟩ :=
          Script.exists_failsWith herror
        have hkind := hfails.kind_ne hv
        obtain ⟨⟨reason, left, rfl, -, -, -, hstop⟩, -⟩ := hfails.stop
        rw [Script.run, hstop] at herror
        cases herror
        exact ⟨reason, rfl, hkind⟩

end

def greeting : Envelope := ⟨"1.0", [{ role := "user", content := .str "hi" }]⟩

/-- A script that calls a tool which `Script.oneTool` does not have. -/
def callOnce : Script :=
  { steps := [.tool { recipient := "c.d", channel := "commentary", saveAs := "x" }] }

def calling : Envelope :=
  ⟨"1.0", [{ role := "system", contentType := some "harmony-script", content := callOnce.toJson }]⟩

theorem run_greeting_calling :
    let accepting : StructureChecks := ⟨fun _ => none, fun _ => none⟩
    (∃ failure, greeting.run accepting {} Script.oneTool.watched {} [] (0, []) =
      (.error failure, 0, []) ∧ failure.code = .execution) ∧
    ∃ result failure, (calling.run accepting {} Script.oneTool {} [] 0).1 = .ok result ∧
      result.error = some failure ∧ failure.details = .obj [("kind", .str "tool_not_found")] ∧
      ∃ reason : RunError, failure = reason.failure ∧ reason.kind ≠ "invalid_script" ∧
        reason.kind ≠ "invalid_recipient" := by
  intro accepting
  have hgreeting := validation_covers_run accepting {} Script.oneTool {} [] 0 greeting
  have hcalling := validation_covers_run accepting {} Script.oneTool {} [] 0 calling
  have hsilent : ∀ m ∈ greeting.messages,
      ¬ (Text.sameIgnoringAsciiCase m.role "system" = true ∧
        m.contentType = some "harmony-script") := by
    intro m hm h
    rw [List.mem_singleton.1 hm] at h
    cases h.2
  have hvalid : calling.failure? accepting {} = none := by decide +kernel
  have hread : Script.ofJson callOnce.toJson = .ok callOnce :=
    toOption_eq_some_iff.1 (by decide +kernel)
  have hfound : calling.scriptMessage? = calling.messages.head? :=
    List.find?_cons_of_pos (isScriptMessage_iff.2 ⟨Text.sameIgnoringAsciiCase_refl _, rfl⟩)
  have hscript : calling.runnable accepting {} = .ok callOnce := by
    rw [runnable, hvalid, Envelope.script, hfound]
    simp only [calling, List.head?_cons, hread, Except.map]
  have hresult : (calling.run accepting {} Script.oneTool {} [] 0).1 =
      .ok ⟨"", [], some (RunError.toolNotFound "c.d").failure⟩ := by
    rw [run_of_runnable_ok accepting {} Script.oneTool {} [] 0 calling hscript]
    exact congrArg Except.ok (by decide +kernel)
  constructor
  · obtain ⟨failure, hfailure, hcode⟩ := hgreeting.2.1.2 ⟨by decide +kernel, hsilent⟩
    exact ⟨failure, (hgreeting.1 failure hfailure).2, hcode⟩
  · exact ⟨_, _, hresult, rfl, rfl, hcalling.2.2 _ _ hresult rfl⟩

end Envelope

end Dialogue
