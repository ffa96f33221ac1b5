import Dialogue.Proofs.Schema.Bundled
import Dialogue.Proofs.Script.RoundTrip

/-!
# The schema of scripts

The bundled schema allows just the values that write a script. For each kind of step its schema asks
for what `Step.WrittenAs` has of the parts; the kinds have names of their own, so a step is of one
kind at most. What a branch asks for leads back to steps, so the first direction is by induction on
the size of the value and the second by induction on the step.
-/
namespace Dialogue.Schema.Bundled

open Entries (get? Ascending)
open Step (kindKey textFields)

variable {unmet : List String} {j : Json} {fields : Fields}

/-- The schema of steps allows the value. -/
def StepAllowed (j : Json) : Prop :=
  faultsAt targets ((Entries.keys targets).erase "#/$defs/Step") step j = []

theorem exists_textFields_iff {output : Fields} :
    (∀ e ∈ output, ∃ s, e.2 = .str s) ↔ ∃ texts, output = textFields texts := by
  constructor
  · intro h
    induction output with
    | nil => exact ⟨[], rfl⟩
    | cons e output ih =>
        obtain ⟨⟨s, hs⟩, hrest⟩ := List.forall_mem_cons.1 h
        obtain ⟨texts, rfl⟩ := ih hrest
        obtain ⟨key, j⟩ := e
        cases hs
        exact ⟨(key, s) :: texts, rfl⟩
  · rintro ⟨texts, rfl⟩ e he
    obtain ⟨t, -, rfl⟩ := List.mem_map.1 he
    exact ⟨t.2, rfl⟩

@[simp] theorem faultsAt_texts_eq_nil_iff :
    faultsAt targets unmet (.all [.properties [] [] (some string), ofKind .object]) j = [] ↔
      ∃ texts, j = .obj (textFields texts) := by
  rw [faultsAt_all_eq_nil_iff, List.forall_mem_cons, List.forall_mem_singleton,
    faultsOf_object_eq_nil_iff]
  constructor
  · rintro ⟨htexts, fields, rfl⟩
    rw [faultsOf_others_eq_nil_iff] at htexts
    simp only [faultsAt_string_eq_nil_iff, exists_textFields_iff] at htexts
    obtain ⟨texts, rfl⟩ := htexts
    exact ⟨texts, rfl⟩
  · rintro ⟨texts, rfl⟩
    rw [faultsOf_others_eq_nil_iff]
    simp only [faultsAt_string_eq_nil_iff, exists_textFields_iff]
    exact ⟨⟨texts, rfl⟩, _, rfl⟩

theorem faultsAt_extractStep_eq_nil_iff (h : Ascending fields) :
    faultsAt targets unmet extractStep (.obj fields) = [] ↔
      get? kindKey fields = some (.str "extract_input") ∧
        ∃ output, get? "output" fields = some (.obj (textFields output)) := by
  rw [extractStep, faultsAt_having_eq_nil_iff h (by decide) (by decide)]
  simp [kind, kindKey, Entries.exists_get?_iff, and_comm]

theorem faultsAt_toolStep_eq_nil_iff (h : Ascending fields) :
    faultsAt targets unmet toolStep (.obj fields) = [] ↔
      get? kindKey fields = some (.str "tool_call") ∧ ∃ call : ToolCall, call.HeldBy fields := by
  have hargs : (∀ value, get? "args" fields = some value → ∃ args, value = .obj args) ↔
      ∃ args, (get? "args" fields).getD (.obj []) = .obj args :=
    Entries.forall_get?_iff (fun value => ∃ args, value = Json.obj args) ⟨[], rfl⟩
  have hparts : faultsAt targets unmet toolStep (.obj fields) = [] ↔
      (∃ args, (get? "args" fields).getD (.obj []) = .obj args) ∧
        (∃ s, get? "channel" fields = some (.str s)) ∧
        (∃ s, get? "recipient" fields = some (.str s)) ∧
        (∃ s, get? "save_as" fields = some (.str s)) ∧
        get? kindKey fields = some (.str "tool_call") := by
    rw [toolStep, faultsAt_having_eq_nil_iff h (by decide) (by decide),
      ← hargs]
    simp [kind, kindKey, Entries.exists_get?_iff]
  rw [hparts]
  constructor
  · rintro ⟨⟨args, ha⟩, ⟨channel, hc⟩, ⟨recipient, hr⟩, ⟨saveAs, hs⟩, hkind⟩
    exact ⟨hkind, ⟨recipient, channel, args, saveAs⟩, hr, hc, ha, hs⟩
  · rintro ⟨hkind, call, hr, hc, ha, hs⟩
    exact ⟨⟨_, ha⟩, ⟨_, hc⟩, ⟨_, hr⟩, ⟨_, hs⟩, hkind⟩

theorem forall_steps_iff {key : String} :
    (∀ value, get? key fields = some value →
        faultsAt targets (Entries.keys targets) steps value = []) ↔
      ∃ items, (get? key fields).getD (.arr []) = .arr items ∧ ∀ k ∈ items, StepAllowed k := by
  have hempty : ∃ items, Json.arr [] = .arr items ∧ ∀ k ∈ items, StepAllowed k :=
    ⟨[], rfl, nofun⟩
  refine Iff.trans ?_ (Entries.forall_get?_iff
    (fun value => ∃ items, value = Json.arr items ∧ ∀ k ∈ items, StepAllowed k) hempty)
  simp only [steps, faultsAt_listOf_eq_nil_iff "Step" (s := step) rfl]
  rfl

theorem faultsAt_branchStep_eq_nil_iff (h : Ascending fields) :
    faultsAt targets unmet branchStep (.obj fields) = [] ↔
      get? kindKey fields = some (.str "if") ∧
        (∃ condition, get? "condition" fields = some (.str condition)) ∧
        (∃ items, (get? "then" fields).getD (.arr []) = .arr items ∧
          ∀ k ∈ items, StepAllowed k) ∧
        ∃ items, (get? "else" fields).getD (.arr []) = .arr items ∧
          ∀ k ∈ items, StepAllowed k := by
  rw [branchStep, faultsAt_having_eq_nil_iff h (by decide) (by decide),
    ← forall_steps_iff, ← forall_steps_iff]
  simp [kind, kindKey, Entries.exists_get?_iff, and_left_comm, and_comm]

theorem faultsAt_utteranceStep_eq_nil_iff (h : Ascending fields) :
    faultsAt targets unmet utteranceStep (.obj fields) = [] ↔
      get? kindKey fields = some (.str "assistant_message") ∧ ∃ u : Utterance, u.HeldBy fields := by
  have hparts : faultsAt targets unmet utteranceStep (.obj fields) = [] ↔
      (∃ s, get? "channel" fields = some (.str s)) ∧
        (∃ text, (get? "content" fields).getD .null = Message.ofOption text) ∧
        (∃ text, (get? "content_template" fields).getD .null = Message.ofOption text) ∧
        get? kindKey fields = some (.str "assistant_message") := by
    rw [utteranceStep, faultsAt_having_eq_nil_iff h (by decide) (by decide),
      ← forall_text_iff, ← forall_text_iff]
    simp [kind, kindKey, Entries.exists_get?_iff]
  rw [hparts]
  constructor
  · rintro ⟨⟨channel, hc⟩, ⟨content, ht⟩, ⟨template, hm⟩, hkind⟩
    exact ⟨hkind, ⟨channel, content, template⟩, hc, ht, hm⟩
  · rintro ⟨hkind, u, hc, ht, hm⟩
    exact ⟨⟨_, hc⟩, ⟨_, ht⟩, ⟨_, hm⟩, hkind⟩

theorem faultsAt_haltStep_eq_nil_iff (h : Ascending fields) :
    faultsAt targets unmet haltStep (.obj fields) = [] ↔
      get? kindKey fields = some (.str "halt") := by
  rw [haltStep, faultsAt_having_eq_nil_iff h (by decide) (by decide)]
  simp [kind, kindKey, Entries.exists_get?_iff]

/-- The options for a step, with the names of the kinds. -/
def stepOptions : List (Schema × Json) :=
  [("ExtractInputStep", "extract_input"), ("ToolCallStep", "tool_call"), ("IfStep", "if"),
    ("AssistantMessageStep", "assistant_message"), ("HaltStep", "halt")].map
    fun e => (.all [.reference ("#/$defs/" ++ e.1)], .str e.2)

theorem stepAllowed_obj_iff (h : Ascending fields) :
    StepAllowed (.obj fields) ↔
      ∃ s ∈ [extractStep, toolStep, branchStep, utteranceStep, haltStep],
        faultsAt targets [] s (.obj fields) = [] := by
  let unmet := (Entries.keys targets).erase "#/$defs/Step"
  let value := Json.obj fields
  have hextract := faultsAt_definition unmet "ExtractInputStep" value (s := extractStep)
    (by decide) rfl
  have htool := faultsAt_definition unmet "ToolCallStep" value (s := toolStep) (by decide) rfl
  have hbranch := faultsAt_definition unmet "IfStep" value (s := branchStep) (by decide) rfl
  have hsay := faultsAt_definition unmet "AssistantMessageStep" value (s := utteranceStep)
    (by decide) rfl
  have hhalt := faultsAt_definition unmet "HaltStep" value (s := haltStep) (by decide) rfl
  have htag : ∀ e ∈ stepOptions, faultsAt targets unmet e.1 value = [] →
      get? kindKey fields = some e.2 := by
    simp only [stepOptions, List.map_cons, List.map_nil, List.forall_mem_cons, hextract, htool,
      hbranch, hsay, hhalt, value, faultsAt_extractStep_eq_nil_iff h,
      faultsAt_toolStep_eq_nil_iff h, faultsAt_branchStep_eq_nil_iff h,
      faultsAt_utteranceStep_eq_nil_iff h, faultsAt_haltStep_eq_nil_iff h]
    exact ⟨And.left, And.left, And.left, And.left, id, nofun⟩
  have hone : faultsOf targets unmet (.oneOf (stepOptions.map (·.1))) value = [] ↔
      ∃ s ∈ [extractStep, toolStep, branchStep, utteranceStep, haltStep],
        faultsAt targets [] s value = [] := by
    rw [faultsOf_oneOf_tagged_eq_nil_iff (by decide) htag]
    simp only [stepOptions, List.map_cons, List.map_nil, List.mem_cons, List.not_mem_nil, or_false,
      or_and_right, exists_or, exists_eq_left, hextract, htool, hbranch, hsay, hhalt, value,
      faultsAt_extractStep_eq_nil_iff h, faultsAt_toolStep_eq_nil_iff h,
      faultsAt_branchStep_eq_nil_iff h, faultsAt_utteranceStep_eq_nil_iff h,
      faultsAt_haltStep_eq_nil_iff h]
  rw [StepAllowed, step, faultsAt_all_eq_nil_iff, List.forall_mem_cons, List.forall_mem_cons,
    List.forall_mem_singleton, faultsOf_object_eq_nil_iff, faultsOf_required_eq_nil_iff, ← hone]
  refine ⟨And.left, fun hoption => ⟨hoption, ?_, fields, rfl⟩⟩
  obtain ⟨e, he, hfaults⟩ := (faultsOf_oneOf_tagged_eq_nil_iff (by decide) htag).1 hoption
  exact List.forall_mem_singleton.2 ⟨e.2, htag e he hfaults⟩

theorem exists_fields_of_stepAllowed (h : StepAllowed j) : ∃ fields, j = .obj fields := by
  rw [StepAllowed, step] at h
  exact exists_fields_of_faultsAt (by simp) h

mutual

theorem stepAllowed_of_writtenAs (s : Step) {j : Json} (h : s.WrittenAs j) : StepAllowed j := by
  cases s with
  | branch condition onTrue onFalse =>
      cases h with
      | branch htag hc ht hf hts hfs =>
          refine (stepAllowed_obj_iff htag.ascending).2 ⟨branchStep, by simp, ?_⟩
          refine (faultsAt_branchStep_eq_nil_iff htag.ascending).2
            ⟨htag.kind, ⟨_, hc⟩, ⟨_, ht, ?_⟩, _, hf, ?_⟩
          · exact stepAllowed_of_writtenAsAll onTrue hts
          · exact stepAllowed_of_writtenAsAll onFalse hfs
  | extract output =>
      cases h with
      | extract htag ho =>
          refine (stepAllowed_obj_iff htag.ascending).2 ⟨extractStep, by simp, ?_⟩
          exact (faultsAt_extractStep_eq_nil_iff htag.ascending).2 ⟨htag.kind, _, ho⟩
  | tool call =>
      cases h with
      | tool htag hc =>
          refine (stepAllowed_obj_iff htag.ascending).2 ⟨toolStep, by simp, ?_⟩
          exact (faultsAt_toolStep_eq_nil_iff htag.ascending).2 ⟨htag.kind, _, hc⟩
  | say u =>
      cases h with
      | say htag hu =>
          refine (stepAllowed_obj_iff htag.ascending).2 ⟨utteranceStep, by simp, ?_⟩
          exact (faultsAt_utteranceStep_eq_nil_iff htag.ascending).2 ⟨htag.kind, _, hu⟩
  | halt =>
      cases h with
      | halt htag =>
          refine (stepAllowed_obj_iff htag.ascending).2 ⟨haltStep, by simp, ?_⟩
          exact (faultsAt_haltStep_eq_nil_iff htag.ascending).2 htag.kind
termination_by structural s

theorem stepAllowed_of_writtenAsAll (steps : List Step) {items : List Json}
    (h : List.Forall₂ Step.WrittenAs steps items) : ∀ k ∈ items, StepAllowed k := by
  cases steps with
  | nil =>
      cases h
      exact nofun
  | cons s rest =>
      cases h with
      | cons hj hitems =>
          exact List.forall_mem_cons.2
            ⟨stepAllowed_of_writtenAs s hj, stepAllowed_of_writtenAsAll rest hitems⟩
termination_by structural steps

end

theorem sizeOf_lt_of_getD {key : String} {items : List Json}
    (h : (get? key fields).getD (.arr []) = .arr items) :
    ∀ k ∈ items, sizeOf k < sizeOf (Json.obj fields) := by
  intro k hk
  cases hget : get? key fields with
  | none =>
      rw [hget] at h
      cases h
      cases hk
  | some value =>
      rw [hget] at h
      cases h
      have hfield := List.sizeOf_lt_of_mem (Entries.mem_of_get? hget)
      have hitem := List.sizeOf_lt_of_mem hk
      simp only [Prod.mk.sizeOf_spec, Json.arr.sizeOf_spec, Json.obj.sizeOf_spec] at hfield ⊢
      omega

theorem exists_forall₂_writtenAs {items : List Json} (h : ∀ k ∈ items, ∃ s : Step, s.WrittenAs k) :
    ∃ steps, List.Forall₂ Step.WrittenAs steps items := by
  induction items with
  | nil => exact ⟨[], .nil⟩
  | cons k items ih =>
      obtain ⟨⟨s, hs⟩, hrest⟩ := List.forall_mem_cons.1 h
      obtain ⟨steps, hsteps⟩ := ih hrest
      exact ⟨s :: steps, .cons hs hsteps⟩

/-- An allowed value writes a step. -/
theorem exists_writtenAs_of_stepAllowed {j : Json} (hj : j.Sorted) (h : StepAllowed j) :
    ∃ s : Step, s.WrittenAs j := by
  induction hn : sizeOf j using Nat.strongRecOn generalizing j with
  | ind n ih =>
      obtain ⟨fields, rfl⟩ := exists_fields_of_stepAllowed h
      have hasc : Ascending fields := hj.1
      have hbranch {key : String} {items : List Json}
          (hitems : (get? key fields).getD (.arr []) = .arr items)
          (hall : ∀ k ∈ items, StepAllowed k) :
          ∃ steps, List.Forall₂ Step.WrittenAs steps items := by
        -- An item of a list in a field is smaller than the object.
        refine exists_forall₂_writtenAs fun k hk => ?_
        have hsorted : (Json.arr items).Sorted :=
          Json.sorted_getD (.arr []) hj.2 trivial hitems
        have hlt : sizeOf k < n := hn ▸ sizeOf_lt_of_getD hitems k hk
        exact ih (sizeOf k) hlt (Json.sortedItems_iff.1 hsorted k hk) (hall k hk) rfl
      obtain ⟨s, hs, hfaults⟩ := (stepAllowed_obj_iff hasc).1 h
      simp only [List.mem_cons, List.not_mem_nil, or_false] at hs
      rcases hs with rfl | rfl | rfl | rfl | rfl
      · obtain ⟨hkind, output, ho⟩ := (faultsAt_extractStep_eq_nil_iff hasc).1 hfaults
        exact ⟨.extract output, .extract ⟨hasc, hkind⟩ ho⟩
      · obtain ⟨hkind, call, hc⟩ := (faultsAt_toolStep_eq_nil_iff hasc).1 hfaults
        exact ⟨.tool call, .tool ⟨hasc, hkind⟩ hc⟩
      · obtain ⟨hkind, ⟨condition, hc⟩, ⟨itemsTrue, ht, hts⟩, itemsFalse, hf, hfs⟩ :=
          (faultsAt_branchStep_eq_nil_iff hasc).1 hfaults
        obtain ⟨onTrue, hts⟩ := hbranch ht hts
        obtain ⟨onFalse, hfs⟩ := hbranch hf hfs
        exact ⟨.branch condition onTrue onFalse, .branch ⟨hasc, hkind⟩ hc ht hf hts hfs⟩
      · obtain ⟨hkind, u, hu⟩ := (faultsAt_utteranceStep_eq_nil_iff hasc).1 hfaults
        exact ⟨.say u, .say ⟨hasc, hkind⟩ hu⟩
      · exact ⟨.halt, .halt ⟨hasc, (faultsAt_haltStep_eq_nil_iff hasc).1 hfaults⟩⟩

theorem faultsAt_script_eq_nil_iff {fields : Fields} (h : Ascending fields) :
    faultsAt targets unmet script (.obj fields) = [] ↔
      (∃ items, get? "steps" fields = some (.arr items) ∧ ∀ k ∈ items, StepAllowed k) ∧
        ∃ vars : Option Fields, (get? "vars" fields).getD .null = vars.elim .null .obj := by
  have hvars : (∀ value, get? "vars" fields = some value →
        ∃ vars : Option Fields, value = vars.elim .null .obj) ↔
      ∃ vars : Option Fields, (get? "vars" fields).getD .null = vars.elim .null .obj :=
    Entries.forall_get?_iff
      (fun value => ∃ vars : Option Fields, value = vars.elim Json.null Json.obj) ⟨none, rfl⟩
  rw [script, faultsAt_record_eq_nil_iff h (by decide) (by decide), ← hvars]
  simp [Entries.exists_get?_iff, steps, faultsAt_listOf_eq_nil_iff "Step" (s := step) rfl,
    StepAllowed]

theorem bundled_script_eq_none_iff :
    StructureChecks.bundled.script j = none ↔
      faultsAt targets ((Entries.keys targets).erase "#/$defs/HarmonyScript") script j = [] := by
  show ClosedSchema.failure? _ _ _ j = none ↔ _
  rw [ClosedSchema.failure?_eq_none_iff, ClosedSchema.faults, faults]
  exact Iff.of_eq (congrArg (· = [])
    (faultsAt_definition _ "HarmonyScript" j (by decide) rfl))

theorem bundled_script_of_writtenAs {script : Script} (h : script.WrittenAs j) :
    StructureChecks.bundled.script j = none := by
  obtain ⟨hasc, hvars, hsteps, hitems⟩ := h
  refine bundled_script_eq_none_iff.2
    ((faultsAt_script_eq_nil_iff hasc).2 ⟨⟨_, hsteps, ?_⟩, _, hvars⟩)
  exact stepAllowed_of_writtenAsAll _ hitems

/-- The check of scripts passes just the values that write a script. -/
theorem exists_writtenAs_of_bundled_script (hj : j.Sorted)
    (h : StructureChecks.bundled.script j = none) : ∃ script : Script, script.WrittenAs j := by
  rw [bundled_script_eq_none_iff] at h
  obtain ⟨fields, rfl⟩ := exists_fields_of_faultsAt (by simp) h
  obtain ⟨⟨items, hsteps, hitems⟩, vars, hvars⟩ := (faultsAt_script_eq_nil_iff hj.1).1 h
  have hsorted : (Json.arr items).Sorted :=
    Json.sortedFields_iff.1 hj.2 _ (Entries.mem_of_get? hsteps)
  obtain ⟨steps, hsteps'⟩ := exists_forall₂_writtenAs fun k hk =>
    exists_writtenAs_of_stepAllowed (Json.sortedItems_iff.1 hsorted k hk) (hitems k hk)
  exact ⟨⟨vars, steps⟩, .intro hj.1 hvars hsteps hsteps'⟩

/-- The check of scripts passes what any script is written as. A value that it passes writes a
script; it can be read if and only if every step of that script passes its rules, and is refused
only with the message of a step that does not. -/
theorem bundled_script_agrees_with_ofJson :
    (∀ script : Script, StructureChecks.bundled.script script.toJson = none) ∧
      ∀ j : Json, j.Sorted → StructureChecks.bundled.script j = none →
        (∃ script : Script, script.WrittenAs j) ∧
          ∀ script : Script, script.WrittenAs j →
            ((∃ read, Script.ofJson j = .ok read) ↔
              ∀ s ∈ Step.preorderAll script.steps, s.check = .ok ()) ∧
            ∀ mismatch, Script.ofJson j = .error mismatch →
              ∃ s ∈ Step.preorderAll script.steps, ∃ e, s.check = .error e ∧
                mismatch = .refused e.message ∧ mismatch.message = e.message := by
  refine ⟨fun script => bundled_script_of_writtenAs script.writtenAs_toJson, ?_⟩
  intro j hj hpasses
  refine ⟨exists_writtenAs_of_bundled_script hj hpasses, fun script hw => ?_⟩
  have hs : script.InOrder := Script.inOrder_of_writtenAs hw hj
  refine ⟨⟨?_, ?_⟩, ?_⟩
  · rintro ⟨read, hread⟩
    rw [Script.ofJson_eq_ok_iff_of_writtenAs hw hs, Script.validate_eq_ok_iff] at hread
    exact hread.1
  · intro hall
    exact ⟨script, (Script.ofJson_eq_ok_iff_of_writtenAs hw hs).2
      ⟨Script.validate_eq_ok_iff.2 hall, rfl⟩⟩
  · intro mismatch herror
    rw [Script.ofJson_of_writtenAs hw hs] at herror
    obtain ⟨s, hmem, e, he, rfl⟩ := Step.exists_of_passing_eq_error herror
    exact ⟨s, (Step.mem_readOrderAll_iff _).1 hmem, e, he, rfl, rfl⟩

/-- A script in which fields are left out and others stand that mean nothing. -/
def looseScript : Json :=
  .obj [("note", .null), ("steps", .arr [.obj [("condition", .str " "),
    ("else", .arr [.obj [("output", .null), ("type", .str "halt")]]), ("type", .str "if")]]),
    ("vars", .null)]

theorem looseScript_writes :
    (⟨none, [.branch " " [] [.halt]]⟩ : Script).WrittenAs looseScript := by
  have hhalt : Step.halt.WrittenAs (.obj [("output", .null), ("type", .str "halt")]) :=
    .halt ⟨Entries.ascending_of_keys (by decide), rfl⟩
  refine .intro (Entries.ascending_of_keys (by decide)) rfl rfl (.cons ?_ .nil)
  exact .branch ⟨Entries.ascending_of_keys (by decide), rfl⟩ rfl rfl rfl .nil (.cons hhalt .nil)

theorem looseScript_sorted : looseScript.Sorted := by
  have hhalt : (Json.obj [("output", .null), ("type", .str "halt")]).Sorted :=
    ⟨Entries.ascending_of_keys (by decide), trivial, trivial, trivial⟩
  exact ⟨Entries.ascending_of_keys (by decide), trivial,
    ⟨⟨Entries.ascending_of_keys (by decide), trivial, ⟨hhalt, trivial⟩, trivial, trivial⟩, trivial⟩,
    trivial, trivial⟩

/-- It is refused for the condition of a step, and for nothing else. -/
theorem bundled_script_looseScript :
    looseScript.Sorted ∧ StructureChecks.bundled.script looseScript = none ∧
      Script.ofJson looseScript = .error (.refused (StepError.message .blankCondition)) ∧
      ∃ s ∈ Step.preorderAll [.branch " " [] [.halt]], ∃ e : StepError,
        s.check = .error e ∧ e.message = StepError.message .blankCondition := by
  have hpasses : StructureChecks.bundled.script looseScript = none :=
    bundled_script_of_writtenAs looseScript_writes
  have hread : Script.ofJson looseScript =
      .error (.refused (StepError.message .blankCondition)) := by
    have hcheck : Step.checkEach (Step.readOrderAll [.branch " " [] [.halt]]) =
        .error .blankCondition := by decide +kernel
    rw [Script.ofJson_of_writtenAs looseScript_writes
      (Script.inOrder_of_writtenAs looseScript_writes looseScript_sorted), Step.passing, hcheck]
  obtain ⟨-, hscript⟩ :=
    bundled_script_agrees_with_ofJson.2 looseScript looseScript_sorted hpasses
  obtain ⟨-, herror⟩ := hscript _ looseScript_writes
  obtain ⟨s, hmem, e, he, -, hmessage⟩ := herror _ hread
  exact ⟨looseScript_sorted, hpasses, hread, s, hmem, e, he, hmessage.symm⟩

end Dialogue.Schema.Bundled
