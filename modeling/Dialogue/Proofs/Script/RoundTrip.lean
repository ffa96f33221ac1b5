import Dialogue.Proofs.Json.Order
import Dialogue.Proofs.Script.Order
import Dialogue.Proofs.Script.Reading
import Dialogue.Proofs.Script.Writing

/-!
# Reading what was written

A value that writes a step can only be refused for a rule that a step breaks: what reading it gives
is `passing` of the steps in `Step.readOrder`. The kind is found where it stands among the fields,
and of the other fields a record takes those it has slots for, so its parts can be looked up one by
one. The induction is on the step; inside a branch it is the one on its steps.

An output is read back as it was only if its names are in order, `Step.InOrder`; the outputs of
what a value in order writes are.
-/
namespace Dialogue

open Entries (get? Ascending select)
open Json (Mismatch Record asTexts asObject asOptional)

namespace Step

/-- The result, if the steps pass their rules; else the complaint of the first that does not. -/
def passing {α : Type} (steps : List Step) (a : α) : Except Mismatch α :=
  match checkEach steps with
  | .ok _ => .ok a
  | .error e => .error (.refused e.message)

variable {α β γ : Type} {steps : List Step} {a : α}

theorem passing_eq_ok_iff {b : α} :
    passing steps a = .ok b ↔ (∀ s ∈ steps, s.check = .ok ()) ∧ a = b := by
  rw [passing, ← checkEach_eq_ok_iff]
  cases checkEach steps <;> simp

theorem exists_of_passing_eq_error {mismatch : Mismatch}
    (h : passing steps a = .error mismatch) :
    ∃ s ∈ steps, ∃ e, s.check = .error e ∧ mismatch = .refused e.message := by
  rw [passing] at h
  split at h
  · cases h
  · rename_i e he
    cases h
    obtain ⟨before, s, after, rfl, -, hs⟩ := checkEach_eq_error_iff.1 he
    exact ⟨s, List.mem_append_right _ List.mem_cons_self, e, hs, rfl⟩

theorem passing_bind (xs ys : List Step) (a : α) (b : β) (f : α → β → γ) :
    (do
      let a ← passing xs a
      let b ← passing ys b
      return f a b) = passing (xs ++ ys) (f a b) := by
  rw [passing, passing, passing, checkEach_append]
  cases checkEach xs <;> cases checkEach ys <;> rfl

theorem passing_map (f : α → β) : (passing steps a).map f = passing steps (f a) := by
  rw [passing, passing]
  cases checkEach steps <;> rfl

theorem checked_eq_passing (s : Step) : checked s = passing [s] s := by
  unfold checked passing checkEach
  cases check s <;> rfl

theorem passing_checked (steps : List Step) (s : Step) :
    passing steps s >>= checked = passing (steps ++ [s]) s := by
  rw [passing, passing, checkEach_append, checkEach_singleton]
  cases checkEach steps with
  | error e => rfl
  | ok _ => exact (checked_eq_passing s).trans (by rw [passing, checkEach_singleton]; rfl)

/-- The value with what it is when read as the steps of a branch. -/
def partOf (j : Json) : Part := ⟨j, branchOfJson j⟩

theorem partsOfFields_eq_map (fields : Fields) :
    partsOfFields fields = fields.map fun e => (e.1, partOf e.2) := by
  induction fields with
  | nil => rfl
  | cons e fields ih =>
      obtain ⟨key, j⟩ := e
      rw [partsOfFields, ih]
      rfl

theorem get?_partsOfFields (key : String) (fields : Fields) :
    get? key (partsOfFields fields) = (get? key fields).map partOf := by
  rw [partsOfFields_eq_map, Entries.get?_map]

theorem ascending_partsOfFields {fields : Fields} (h : Ascending fields) :
    Ascending (partsOfFields fields) := by
  rw [partsOfFields_eq_map, Entries.ascending_map_iff]
  exact h

theorem kindOf_of_absent {form : KindForm} {kind : Kind} {parts : List (String × Part)}
    (h : ∀ e ∈ parts, e.1 ≠ kindKey) : kindOf form (some kind) parts = .ok kind := by
  induction parts with
  | nil => rfl
  | cons e parts ih =>
      obtain ⟨key, p⟩ := e
      rw [kindOf, if_pos (h _ List.mem_cons_self)]
      exact ih fun e he => h e (List.mem_cons_of_mem _ he)

theorem kindOf_of_get? {form : KindForm} {kind : Kind} {parts : Entries Part} {p : Part}
    (h : Ascending parts) (hp : get? kindKey parts = some p) (hk : form.read p.value = .ok kind) :
    kindOf form none parts = .ok kind := by
  induction parts with
  | nil => cases hp
  | cons e parts ih =>
      obtain ⟨key, q⟩ := e
      obtain ⟨hlt, hrest⟩ := List.pairwise_cons.1 h
      rw [get?] at hp
      rw [kindOf]
      split at hp
      · rename_i heq
        cases hp
        have hnone : ¬ (none : Option Kind).isSome = true := Bool.false_ne_true
        -- The keys ascend, so the kind is not named again behind.
        rw [if_neg (not_not.2 heq), if_neg hnone, hk]
        refine kindOf_of_absent ?_
        intro e he hek
        have hlt : key < e.1 := hlt e he
        rw [heq, hek] at hlt
        exact String.lt_irrefl _ hlt
      · rename_i hne
        rw [if_pos hne]
        exact ih hrest hp

def ownParts (fields : Fields) : List (String × Part) :=
  (partsOfFields fields).filter fun (key, _) => key ≠ kindKey

/-- A record is read from the parts under the names of its slots, if the kind is not one. -/
theorem ofEntries_ownParts {σ : Type} {r : Record Part σ} (names : List String)
    (hn : ∀ slot ∈ r.slots, slot.name ∈ names) (hnames : names.Pairwise (· < ·))
    (hk : kindKey ∉ names) {fields : Fields} (h : Ascending fields) :
    r.ofEntries (ownParts fields) = r.ofEntries (select names (partsOfFields fields)) := by
  rw [ownParts, ← Record.ofEntries_select names hn hnames ((ascending_partsOfFields h).filter _)]
  congr 1
  refine List.filterMap_congr ?_
  intro name hname
  have hne : decide (name ≠ kindKey) = true := by
    rw [decide_eq_true_iff]
    rintro rfl
    exact hk hname
  rw [Entries.get?_filter (p := fun key => decide (key ≠ kindKey)) hne]

theorem ofParts_of_tagged {form : KindForm} {name : String} {kind : Kind} {fields : Fields}
    (h : Tagged name fields) (hk : Json.asNamed Kind.known name = .ok kind) :
    ofParts form (partsOfFields fields) =
      ofKind (fun r => r.ofEntries (ownParts fields)) kind >>= checked := by
  have hget : get? kindKey (partsOfFields fields) = some (partOf (.str name)) := by
    rw [get?_partsOfFields, h.kind]
    rfl
  have hread : form.read (partOf (.str name)).value = .ok kind := by
    cases form <;> exact hk
  rw [ofParts, kindOf_of_get? (ascending_partsOfFields h.ascending) hget hread]
  dsimp only
  unfold ownParts
  split
  · rename_i hs
    rw [hs]
    rfl
  · rename_i hs
    rw [hs]
    rfl

theorem asTexts_textFields (output : Entries String) :
    asTexts (.obj (textFields output)) = .ok output := by
  show (textFields output).mapM _ = _
  rw [textFields, List.mapM_map]
  exact (List.mapM_pure (f := id)).trans (congrArg _ output.map_id)

theorem extractRecord_ofEntries {output : Entries String} {fields : Fields}
    (hasc : Ascending output) (ho : get? "output" fields = some (.obj (textFields output))) :
    extractRecord.ofEntries (select ["output"] (partsOfFields fields)) = .ok output := by
  have hparts : select ["output"] (partsOfFields fields) =
      [("output", partOf (.obj (textFields output)))] := by
    simp [select, get?_partsOfFields, ho]
  have hread : asTexts (partOf (.obj (textFields output))).value = .ok output :=
    asTexts_textFields output
  rw [hparts]
  simp [extractRecord, Record.ofEntries, Json.recordOfEntries, Json.fillEntries, hread,
    Except.map, Entries.ofList_of_ascending hasc]

theorem toolRecord_ofEntries {call : ToolCall} {fields : Fields} (h : call.HeldBy fields) :
    toolRecord.ofEntries (select ["args", "channel", "recipient", "save_as"]
      (partsOfFields fields)) = .ok call := by
  have hargs := h.args
  simp only [select, get?_partsOfFields, h.channel, h.recipient, h.saveAs, List.filterMap_cons,
    List.filterMap_nil, Option.map_some]
  cases hget : get? "args" fields with
  | none =>
      rw [hget] at hargs
      cases call
      cases hargs
      rfl
  | some value =>
      rw [hget] at hargs
      cases call
      cases hargs
      rfl

theorem utteranceRecord_ofEntries {u : Utterance} {fields : Fields} (h : u.HeldBy fields) :
    utteranceRecord.ofEntries (select ["channel", "content", "content_template"]
      (partsOfFields fields)) = .ok u := by
  obtain ⟨channel, content, template⟩ := u
  obtain ⟨hchannel, hcontent, htemplate⟩ := h
  simp only [select, get?_partsOfFields, hchannel, List.filterMap_cons,
    List.filterMap_nil, Option.map_some]
  cases hc : get? "content" fields <;> cases ht : get? "content_template" fields <;>
    rw [hc] at hcontent <;> rw [ht] at htemplate <;> cases content <;> cases template <;>
    cases hcontent <;> cases htemplate <;> rfl

def stepsOf (p : Option Part) : Except Mismatch (List Step) := p.elim (.ok []) Part.steps

theorem stepsOf_of_getD {key : String} {fields : Fields} {items : List Json}
    (h : (get? key fields).getD (.arr []) = .arr items) :
    stepsOf ((get? key fields).map partOf) = branchOfItems items := by
  cases hget : get? key fields <;> rw [hget] at h <;> cases h <;> rfl

theorem branchOfItems_cons (j : Json) (rest : List Json) :
    branchOfItems (j :: rest) = (do
      let s ← ofBranchItem j
      let steps ← branchOfItems rest
      return s :: steps) := by
  rw [branchOfItems]
  cases ofBranchItem j <;> cases branchOfItems rest <;> rfl

/-- The steps for the other case are read first. -/
theorem branchRecord_ofEntries {condition : String} {fields : Fields}
    (hc : get? "condition" fields = some (.str condition)) :
    branchRecord.ofEntries (select ["condition", "else", "then"] (partsOfFields fields)) =
      (do
        let onFalse ← stepsOf ((get? "else" fields).map partOf)
        let onTrue ← stepsOf ((get? "then" fields).map partOf)
        return ⟨condition, onTrue, onFalse⟩) := by
  simp only [select, get?_partsOfFields, hc, List.filterMap_cons, List.filterMap_nil,
    Option.map_some]
  generalize (get? "else" fields).map partOf = p
  generalize (get? "then" fields).map partOf = q
  cases p with
  | none =>
      cases q with
      | none => rfl
      | some q =>
          obtain ⟨-, steps⟩ := q
          cases steps <;> rfl
  | some p =>
      obtain ⟨-, onFalse⟩ := p
      cases q with
      | none => cases onFalse <;> rfl
      | some q =>
          obtain ⟨-, onTrue⟩ := q
          cases onFalse <;> cases onTrue <;> rfl

/-- The names of every output are in order. -/
def InOrder (steps : List Step) : Prop := ∀ output, .extract output ∈ steps → Ascending output

theorem inOrder_branch {condition : String} {onTrue onFalse rest : List Step} :
    InOrder (.branch condition onTrue onFalse :: rest) ↔ InOrder rest := by
  simp [InOrder]

theorem inOrder_append {xs ys : List Step} : InOrder (xs ++ ys) ↔ InOrder xs ∧ InOrder ys := by
  simp only [InOrder, List.mem_append, or_imp, forall_and]

mutual

theorem inOrder_of_writtenAs (s : Step) {j : Json} (h : s.WrittenAs j) (hj : j.Sorted) :
    InOrder s.preorder := by
  cases s with
  | extract output =>
      cases h with
      | extract htag ho =>
          rintro output' hmem
          cases List.mem_singleton.1 hmem
          have hobj : (Json.obj (textFields output)).Sorted :=
            Json.sortedFields_iff.1 hj.2 _ (Entries.mem_of_get? ho)
          exact (Entries.ascending_map_iff Json.str).1 hobj.1
  | branch condition onTrue onFalse =>
      cases h with
      | branch htag hc ht hf hts hfs =>
          rw [preorder, inOrder_branch, inOrder_append]
          exact ⟨inOrder_of_writtenAsAll onTrue hts
              (Json.sorted_getD (.arr []) hj.2 trivial ht),
            inOrder_of_writtenAsAll onFalse hfs
              (Json.sorted_getD (.arr []) hj.2 trivial hf)⟩
  | tool call => simp [InOrder, preorder]
  | say u => simp [InOrder, preorder]
  | halt => simp [InOrder, preorder]
termination_by structural s

theorem inOrder_of_writtenAsAll (steps : List Step) {items : List Json}
    (h : List.Forall₂ WrittenAs steps items) (hj : Json.SortedItems items) :
    InOrder (preorderAll steps) := by
  cases steps with
  | nil => exact nofun
  | cons s rest =>
      cases h with
      | cons hs hrest =>
          rw [preorderAll, inOrder_append]
          exact ⟨inOrder_of_writtenAs s hs hj.1, inOrder_of_writtenAsAll rest hrest hj.2⟩
termination_by structural steps

end

mutual

/-- Reading what writes a step checks its steps, those inside it first. -/
theorem ofParts_of_writtenAs (s : Step) {form : KindForm} {fields : Fields}
    (h : s.WrittenAs (.obj fields)) (hs : InOrder s.preorder) :
    ofParts form (partsOfFields fields) = passing s.readOrder s := by
  cases s with
  | extract output =>
      obtain ⟨htag, ho⟩ := h
      have hasc : Ascending output := hs output (by simp [preorder])
      have hread : ofKind (fun r => r.ofEntries (ownParts fields)) .extractInput =
          .ok (.extract output) := by
        rw [ofKind, ofEntries_ownParts ["output"] (by simp [extractRecord]) (by decide)
          (by decide) htag.ascending, extractRecord_ofEntries hasc ho]
        rfl
      rw [ofParts_of_tagged htag rfl, hread]
      exact checked_eq_passing (.extract output)
  | tool call =>
      obtain ⟨⟩ | ⟨htag, hcall⟩ := h
      have hread : ofKind (fun r => r.ofEntries (ownParts fields)) .toolCall =
          .ok (.tool call) := by
        rw [ofKind, ofEntries_ownParts ["args", "channel", "recipient", "save_as"]
          (by simp [toolRecord]) (by decide) (by decide) htag.ascending, toolRecord_ofEntries hcall]
        rfl
      rw [ofParts_of_tagged htag rfl, hread]
      exact checked_eq_passing (.tool call)
  | branch condition onTrue onFalse =>
      cases h with
      | branch htag hc ht hf hts hfs =>
          rw [preorder, inOrder_branch, inOrder_append] at hs
          have hread : ofKind (fun r => r.ofEntries (ownParts fields)) .branch =
              passing (readOrderAll onFalse ++ readOrderAll onTrue)
                (.branch condition onTrue onFalse) := by
            rw [ofKind, ofEntries_ownParts ["condition", "else", "then"]
              (by simp [branchRecord]) (by decide) (by decide) htag.ascending,
              branchRecord_ofEntries hc, stepsOf_of_getD ht, stepsOf_of_getD hf,
              branchOfItems_of_writtenAs onTrue hts hs.1,
              branchOfItems_of_writtenAs onFalse hfs hs.2, passing_bind, passing_map]
          rw [ofParts_of_tagged htag rfl, hread, readOrder, ← List.append_assoc, passing_checked]
  | say u =>
      obtain ⟨⟩ | ⟨⟩ | ⟨⟩ | ⟨htag, hu⟩ := h
      have hread : ofKind (fun r => r.ofEntries (ownParts fields)) .assistantMessage =
          .ok (.say u) := by
        rw [ofKind, ofEntries_ownParts ["channel", "content", "content_template"]
          (by simp [utteranceRecord]) (by decide) (by decide) htag.ascending,
          utteranceRecord_ofEntries hu]
        rfl
      rw [ofParts_of_tagged htag rfl, hread]
      exact checked_eq_passing (.say u)
  | halt =>
      obtain ⟨⟩ | ⟨⟩ | ⟨⟩ | ⟨⟩ | ⟨htag⟩ := h
      have hread : ofKind (fun r => r.ofEntries (ownParts fields)) .halt = .ok .halt := by
        rw [ofKind, ofEntries_ownParts [] (by simp [haltRecord]) .nil (by decide)
          htag.ascending]
        rfl
      rw [ofParts_of_tagged htag rfl, hread]
      exact checked_eq_passing .halt
termination_by structural s

theorem branchOfItems_of_writtenAs (steps : List Step) {items : List Json}
    (h : List.Forall₂ WrittenAs steps items) (hs : InOrder (preorderAll steps)) :
    branchOfItems items = passing (readOrderAll steps) steps := by
  cases steps with
  | nil =>
      cases h
      rfl
  | cons s rest =>
      cases h with
      | cons hj hitems =>
          rw [preorderAll, inOrder_append] at hs
          obtain ⟨fields, rfl⟩ := hj.exists_fields
          rw [branchOfItems_cons, ofBranchItem, ofParts_of_writtenAs s hj hs.1,
            branchOfItems_of_writtenAs rest hitems hs.2, passing_bind]
          rfl
termination_by structural steps

end

theorem ofJson_of_writtenAs {s : Step} {j : Json} (h : s.WrittenAs j) (hs : InOrder s.preorder) :
    ofJson j = passing s.readOrder s := by
  obtain ⟨fields, rfl⟩ := h.exists_fields
  exact ofParts_of_writtenAs s h hs

theorem mapM_ofJson_of_writtenAs {steps : List Step} {items : List Json}
    (h : List.Forall₂ WrittenAs steps items) (hs : InOrder (preorderAll steps)) :
    items.mapM ofJson = passing (readOrderAll steps) steps := by
  induction h with
  | nil => rfl
  | cons hj hitems ih =>
      rw [preorderAll, inOrder_append] at hs
      rw [List.mapM_cons, ofJson_of_writtenAs hj hs.1, ih hs.2, passing_bind]
      rfl

end Step

namespace Script
open Step

def InOrder (script : Script) : Prop := Step.InOrder (preorderAll script.steps)

theorem writtenAs_toJson (script : Script) : script.WrittenAs script.toJson := by
  obtain ⟨vars, steps⟩ := script
  cases vars with
  | none => exact .intro (List.pairwise_singleton _ _) rfl rfl (writtenAs_toJsonAll steps)
  | some vars =>
      have hkeys : ["steps", "vars"].Pairwise (· < ·) := by decide
      exact .intro (Entries.ascending_of_keys hkeys) rfl rfl (writtenAs_toJsonAll steps)

theorem inOrder_of_writtenAs {script : Script} {j : Json} (h : script.WrittenAs j)
    (hj : j.Sorted) : script.InOrder := by
  obtain ⟨hasc, hvars, hsteps, hitems⟩ := h
  exact Step.inOrder_of_writtenAsAll _ hitems
    (Json.sortedFields_iff.1 hj.2 _ (Entries.mem_of_get? hsteps))

theorem ofJson_obj {fields : Fields} {items : List Json} (h : Ascending fields)
    (hs : get? "steps" fields = some (.arr items)) :
    ofJson (.obj fields) = (do
      let steps ← items.mapM Step.ofJson
      let vars ← asOptional asObject ((get? "vars" fields).getD .null)
      return ⟨vars, steps⟩) := by
  show (⟨"Script", slots.map (·.toSlot), {}⟩ : Record Json Script).ofEntries fields = _
  rw [← Record.ofEntries_select ["steps", "vars"]
    (by simp [slots, Json.ShapedSlot.ofDefault, Json.ShapedSlot.ofRequired]) (by decide) h]
  simp only [select, hs, List.filterMap_cons, List.filterMap_nil, Option.map_some]
  have hsteps : (Json.Decoder.listOf Step.decoder).ofJson (.arr items) =
      items.mapM Step.ofJson := rfl
  have hvars (j : Json) :
      (Json.Decoder.optional .object).ofJson j = asOptional asObject j := rfl
  unfold Record.ofEntries Json.recordOfEntries
  cases hm : items.mapM Step.ofJson with
  | error mismatch =>
      simp [Json.fillEntries, slots, Json.ShapedSlot.ofDefault, Json.ShapedSlot.ofRequired, hsteps,
        hm, Except.map, bind, Except.bind]
  | ok steps =>
      cases get? "vars" fields with
      | none =>
          simp [Json.fillEntries, slots, Json.ShapedSlot.ofDefault, Json.ShapedSlot.ofRequired,
            hsteps, hm, Except.map, asOptional, bind, Except.bind, pure, Except.pure]
      | some j =>
          cases hj : asOptional asObject j <;>
            simp [Json.fillEntries, slots, Json.ShapedSlot.ofDefault, Json.ShapedSlot.ofRequired,
              hsteps, hm, hvars, hj, Except.map, bind, Except.bind, pure, Except.pure]

theorem ofJson_of_writtenAs {script : Script} {j : Json} (h : script.WrittenAs j)
    (hs : script.InOrder) : ofJson j = passing (readOrderAll script.steps) script := by
  obtain ⟨vars, steps⟩ := script
  obtain @⟨fields, items, hasc, hv, hsteps, hitems⟩ := h
  have hvars : asOptional asObject ((get? "vars" fields).getD .null) = .ok vars := by
    rw [hv]
    cases vars <;> rfl
  rw [ofJson_obj hasc hsteps, mapM_ofJson_of_writtenAs hitems hs, hvars]
  exact passing_map _

theorem validate_eq_ok_iff {script : Script} :
    script.validate = .ok () ↔ ∀ s ∈ preorderAll script.steps, s.check = .ok () := by
  rw [validate, validateAll_eq_checkEach, checkEach_eq_ok_iff]

/-- A value that writes a script is read as that script if all steps pass their rules, and cannot be
read otherwise. -/
theorem ofJson_eq_ok_iff_of_writtenAs {script read : Script} {j : Json} (h : script.WrittenAs j)
    (hs : script.InOrder) :
    ofJson j = .ok read ↔ script.validate = .ok () ∧ script = read := by
  rw [ofJson_of_writtenAs h hs, passing_eq_ok_iff, validate_eq_ok_iff]
  simp only [mem_readOrderAll_iff]

theorem validate_of_ofText {text : String} {script : Script}
    (h : decoder.ofText text = .ok script) : script.validate = .ok () := by
  rw [Json.Decoder.ofText, mapError_eq_ok_iff, Json.Decoder.ofChars] at h
  split at h
  · cases h
  · split at h
    · cases h
    · exact validate_of_ofJson (mapError_eq_ok_iff.1 h)

/-- A script that was written can be read again if and only if it is valid, that is if every step of
the tree passes its rules, and then it is what is read. If it is not valid, the error is that of the
first step in pre-order that breaks a rule. Whatever is read, from a value or from text, is valid.
-/
theorem ofJson_toJson_iff_validate (script : Script) (h : script.InOrder) :
    ((∃ read, ofJson script.toJson = .ok read) ↔ script.validate = .ok ()) ∧
      (script.validate = .ok () ↔ ∀ s ∈ preorderAll script.steps, s.check = .ok ()) ∧
      (∀ read, ofJson script.toJson = .ok read → read = script) ∧
      (∀ e, script.validate = .error e ↔
        ∃ before s after, preorderAll script.steps = before ++ s :: after ∧
          (∀ t ∈ before, t.check = .ok ()) ∧ s.check = .error e) ∧
      (∀ j read, ofJson j = .ok read → read.validate = .ok ()) ∧
      ∀ text read, decoder.ofText text = .ok read → read.validate = .ok () := by
  have hread {read : Script} :
      ofJson script.toJson = .ok read ↔ script.validate = .ok () ∧ script = read :=
    ofJson_eq_ok_iff_of_writtenAs script.writtenAs_toJson h
  refine ⟨⟨?_, ?_⟩, validate_eq_ok_iff, ?_, ?_, ?_, ?_⟩
  · rintro ⟨read, hr⟩
    exact (hread.1 hr).1
  · intro hv
    exact ⟨script, hread.2 ⟨hv, rfl⟩⟩
  · intro read hr
    exact (hread.1 hr).2.symm
  · intro e
    rw [validate, validateAll_eq_checkEach]
    exact checkEach_eq_error_iff
  · exact fun j read => validate_of_ofJson
  · exact fun text read => validate_of_ofText

def twoTexts (no : String) : Script :=
  { steps := [.branch "a" [.say { channel := "final", content := some "yes" }]
      [.say { channel := "final", content := some no, template := some "{{a}}" }]] }

/-- An empty text beside a template breaks no rule, other text does. -/
theorem ofJson_toJson_twoTexts :
    (∀ no, (twoTexts no).InOrder) ∧ ofJson (twoTexts "").toJson = .ok (twoTexts "") ∧
      (twoTexts "no").validate = .error .conflictingContent ∧
      ∀ read, ofJson (twoTexts "no").toJson ≠ .ok read := by
  have hs (no : String) : (twoTexts no).InOrder := by
    simp [InOrder, Step.InOrder, twoTexts, preorderAll, preorder]
  have hv : (twoTexts "").validate = .ok () := toOption_eq_some_iff.1 (by decide +kernel)
  have he : (twoTexts "no").validate = .error .conflictingContent := by decide +kernel
  obtain ⟨⟨read, hr⟩, -, hsame, -⟩ :=
    (ofJson_toJson_iff_validate (twoTexts "") (hs "")).imp_left (·.2 hv)
  refine ⟨hs, hsame read hr ▸ hr, he, ?_⟩
  intro read hr
  have hno := (ofJson_toJson_iff_validate (twoTexts "no") (hs "no")).1.1 ⟨read, hr⟩
  rw [he] at hno
  cases hno

end Script
end Dialogue
