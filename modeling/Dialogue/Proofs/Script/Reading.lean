import Dialogue.Proofs.Json.Record
import Dialogue.Script.Codec

/-!
# Scripts that were read

A step is checked when it is read, after the steps inside its branches were read and checked. So all
steps of a script that was read pass their rules, however deep they stand and whether objects or
lists wrote them. The induction is on the value: a part of a value is `Sound` if it can only be read
as steps that pass their rules, and all parts of a value are.
-/
namespace Dialogue

open Json (Mismatch Record Slot)

namespace Step

/-- The steps inside the branches pass their rules. -/
def BranchesPass : Step → Prop
  | branch _ onTrue onFalse => validateAll onTrue = .ok () ∧ validateAll onFalse = .ok ()
  | _ => True

theorem validate_eq_ok_iff {s : Step} :
    s.validate = .ok () ↔ s.check = .ok () ∧ s.BranchesPass := by
  cases s with
  | branch condition onTrue onFalse =>
      have hcheck :
          check (.branch condition [] []) = check (.branch condition onTrue onFalse) := rfl
      rw [validate, hcheck, BranchesPass]
      cases check (.branch condition onTrue onFalse) <;> cases validateAll onTrue <;> simp
  | extract output => simp [validate, BranchesPass]
  | tool call => simp [validate, BranchesPass]
  | say utterance => simp [validate, BranchesPass]
  | halt => simp [validate, BranchesPass, check]

theorem validateAll_cons_eq_ok_iff {s : Step} {rest : List Step} :
    validateAll (s :: rest) = .ok () ↔ s.validate = .ok () ∧ validateAll rest = .ok () := by
  rw [validateAll]
  cases s.validate <;> simp

theorem validateAll_eq_ok_iff {steps : List Step} :
    validateAll steps = .ok () ↔ ∀ s ∈ steps, s.validate = .ok () := by
  induction steps with
  | nil => simp [validateAll]
  | cons s rest ih => rw [validateAll_cons_eq_ok_iff, ih, List.forall_mem_cons]

/-- What the part is when read as steps passes the rules. -/
def Part.Sound (p : Part) : Prop := ∀ steps, p.steps = .ok steps → validateAll steps = .ok ()

def BranchParts.Pass (b : BranchParts) : Prop :=
  validateAll b.onTrue = .ok () ∧ validateAll b.onFalse = .ok ()

theorem branchRecord_keeps :
    ∀ slot ∈ branchRecord.slots, slot.Keeps Part.Sound BranchParts.Pass := by
  intro slot hslot p before after hp hb h
  simp only [branchRecord, List.mem_cons, List.not_mem_nil, or_false] at hslot
  rcases hslot with rfl | rfl | rfl
  · obtain ⟨condition, -, rfl⟩ := map_eq_ok_iff.1 h
    exact hb
  · obtain ⟨steps, hsteps, rfl⟩ := map_eq_ok_iff.1 h
    exact ⟨hp steps hsteps, hb.2⟩
  · obtain ⟨steps, hsteps, rfl⟩ := map_eq_ok_iff.1 h
    exact ⟨hb.1, hp steps hsteps⟩

theorem branchesPass_of_ofKind {read : {σ : Type} → Record Part σ → Except Mismatch σ}
    (hread : ∀ b, read branchRecord = .ok b → b.Pass) {kind : Kind} {s : Step}
    (h : ofKind read kind = .ok s) : s.BranchesPass := by
  cases kind with
  | branch =>
      obtain ⟨b, hb, rfl⟩ := map_eq_ok_iff.1 h
      exact hread b hb
  | extractInput =>
      obtain ⟨_, _, rfl⟩ := map_eq_ok_iff.1 h
      trivial
  | toolCall =>
      obtain ⟨_, _, rfl⟩ := map_eq_ok_iff.1 h
      trivial
  | assistantMessage =>
      obtain ⟨_, _, rfl⟩ := map_eq_ok_iff.1 h
      trivial
  | halt =>
      obtain ⟨_, _, rfl⟩ := map_eq_ok_iff.1 h
      trivial

theorem validate_of_checked {s t : Step} (hs : s.BranchesPass) (h : checked s = .ok t) :
    t.validate = .ok () := by
  unfold checked at h
  split at h
  · rename_i hc
    cases h
    exact validate_eq_ok_iff.2 ⟨hc, hs⟩
  · cases h

theorem validate_of_ofParts {form : KindForm} {parts : List (String × Part)} {s : Step}
    (hp : ∀ p ∈ parts, p.2.Sound) (h : ofParts form parts = .ok s) : s.validate = .ok () := by
  unfold ofParts at h
  split at h
  · cases h
  · dsimp only at h
    split at h
    · cases h
    · rename_i t ht
      refine validate_of_checked (branchesPass_of_ofKind ?_ ht) h
      intro b hb
      refine Record.ofEntries_keeps (P := BranchParts.Pass) branchRecord_keeps ⟨rfl, rfl⟩ ?_ hb
      intro e he
      exact hp e (List.mem_filter.1 he).1

theorem validate_of_ofRow {form : KindForm} {parts : List Part} {s : Step}
    (hp : ∀ p ∈ parts, p.Sound) (h : ofRow form parts = .ok s) : s.validate = .ok () := by
  unfold ofRow at h
  split at h
  · cases h
  · rename_i first rest
    split at h
    · cases h
    · dsimp only at h
      split at h
      · cases h
      · rename_i t ht
        refine validate_of_checked (branchesPass_of_ofKind ?_ ht) h
        intro b hb
        refine Record.ofItems_keeps (P := BranchParts.Pass) branchRecord_keeps ⟨rfl, rfl⟩ ?_ hb
        intro p hm
        exact hp p (List.mem_cons_of_mem first hm)

mutual

theorem validate_of_ofBranchItem (j : Json) {s : Step} (h : ofBranchItem j = .ok s) :
    s.validate = .ok () := by
  cases j with
  | obj fields => exact validate_of_ofParts (partsOfFields_sound fields) h
  | arr items => exact validate_of_ofRow (partsOfItems_sound items) h
  | null => cases h
  | bool b => cases h
  | num n => cases h
  | str s => cases h
termination_by structural j

theorem partsOfFields_sound (fields : List (String × Json)) :
    ∀ p ∈ partsOfFields fields, p.2.Sound := by
  cases fields with
  | nil =>
      intro p hp
      rw [partsOfFields] at hp
      cases hp
  | cons field rest =>
      obtain ⟨key, j⟩ := field
      intro p hp
      rw [partsOfFields] at hp
      rcases List.mem_cons.1 hp with rfl | hp
      · exact fun steps h => validateAll_of_branchOfJson j h
      · exact partsOfFields_sound rest p hp
termination_by structural fields

theorem partsOfItems_sound (items : List Json) : ∀ p ∈ partsOfItems items, p.Sound := by
  cases items with
  | nil =>
      intro p hp
      rw [partsOfItems] at hp
      cases hp
  | cons j rest =>
      intro p hp
      rw [partsOfItems] at hp
      rcases List.mem_cons.1 hp with rfl | hp
      · exact fun steps h => validateAll_of_branchOfJson j h
      · exact partsOfItems_sound rest p hp
termination_by structural items

theorem validateAll_of_branchOfJson (j : Json) {steps : List Step}
    (h : branchOfJson j = .ok steps) : validateAll steps = .ok () := by
  cases j with
  | arr items => exact validateAll_of_branchOfItems items h
  | null => cases h
  | bool b => cases h
  | num n => cases h
  | str s => cases h
  | obj fields => cases h
termination_by structural j

theorem validateAll_of_branchOfItems (items : List Json) {steps : List Step}
    (h : branchOfItems items = .ok steps) : validateAll steps = .ok () := by
  cases items with
  | nil =>
      cases h
      rfl
  | cons j rest =>
      rw [branchOfItems] at h
      split at h
      · cases h
      · rename_i s hs
        split at h
        · cases h
        · rename_i others hr
          cases h
          exact validateAll_cons_eq_ok_iff.2
            ⟨validate_of_ofBranchItem j hs, validateAll_of_branchOfItems rest hr⟩
termination_by structural items

end

theorem validate_of_ofJson {j : Json} {s : Step} (h : ofJson j = .ok s) : s.validate = .ok () := by
  cases j with
  | obj fields => exact validate_of_ofParts (partsOfFields_sound fields) h
  | arr items => exact validate_of_ofRow (partsOfItems_sound items) h
  | null => cases h
  | bool b => cases h
  | num n => cases h
  | str s => cases h

end Step

namespace Script

theorem slots_keep : ∀ slot ∈ slots.map (·.toSlot), slot.Keeps (fun _ => True)
    fun script : Script => script.validate = .ok () := by
  intro slot hslot j before after _ hb h
  simp only [slots, Json.ShapedSlot.ofDefault, Json.ShapedSlot.ofRequired, List.map_cons,
    List.map_nil, List.mem_cons, List.not_mem_nil, or_false] at hslot
  rcases hslot with rfl | rfl
  · obtain ⟨vars, -, rfl⟩ := map_eq_ok_iff.1 h
    exact hb
  · obtain ⟨steps, hsteps, rfl⟩ := map_eq_ok_iff.1 h
    refine Step.validateAll_eq_ok_iff.2 ?_
    intro s hs
    obtain ⟨k, _, hk⟩ := Json.exists_of_mem_asList hsteps s hs
    exact Step.validate_of_ofJson hk

/-- A script that was read passes all rules. -/
theorem validate_of_ofJson {j : Json} {script : Script} (h : ofJson j = .ok script) :
    script.validate = .ok () :=
  Record.ofJson_keeps (P := fun script : Script => script.validate = .ok ()) slots_keep rfl
    (fun _ _ => trivial) h

end Script

end Dialogue
