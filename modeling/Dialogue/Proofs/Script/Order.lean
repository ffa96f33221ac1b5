import Dialogue.Script.Rules

/-!
# The steps of a tree in order

A tree of steps can be listed with a step before the steps inside it, `Step.preorder`, or after
them, `Step.readOrder`. The second order also has the steps for the other case first, since that is
how the keys of a step stand in its fields. Both list the same steps.

Checking a list of steps stops at the first that breaks a rule. To validate a tree is to check its
steps in pre-order.
-/
namespace Dialogue.Step

def checkEach : List Step → Except StepError Unit
  | [] => .ok ()
  | s :: rest =>
      match check s with
      | .error e => .error e
      | .ok _ => checkEach rest

theorem checkEach_append (xs ys : List Step) :
    checkEach (xs ++ ys) = (do checkEach xs; checkEach ys) := by
  induction xs with
  | nil => rfl
  | cons s xs ih =>
      rw [List.cons_append, checkEach, checkEach, ih]
      cases check s <;> rfl

theorem checkEach_singleton (s : Step) : checkEach [s] = check s := by
  rw [checkEach]
  cases check s <;> rfl

theorem checkEach_eq_ok_iff {steps : List Step} :
    checkEach steps = .ok () ↔ ∀ s ∈ steps, s.check = .ok () := by
  induction steps with
  | nil => simp [checkEach]
  | cons s rest ih =>
      rw [checkEach, List.forall_mem_cons, ← ih]
      cases check s <;> simp

theorem checkEach_eq_error_iff {steps : List Step} {e : StepError} :
    checkEach steps = .error e ↔ ∃ before s after, steps = before ++ s :: after ∧
      (∀ t ∈ before, t.check = .ok ()) ∧ s.check = .error e := by
  constructor
  · intro h
    induction steps with
    | nil => cases h
    | cons s rest ih =>
        rw [checkEach] at h
        split at h
        · rename_i hs
          cases h
          exact ⟨[], s, rest, rfl, nofun, hs⟩
        · rename_i hs
          obtain ⟨before, t, after, rfl, hbefore, ht⟩ := ih h
          exact ⟨s :: before, t, after, rfl, List.forall_mem_cons.2 ⟨hs, hbefore⟩, ht⟩
  · rintro ⟨before, s, after, rfl, hbefore, hs⟩
    rw [checkEach_append, checkEach_eq_ok_iff.2 hbefore, checkEach, hs]
    rfl

mutual

/-- The steps of a tree, a step before those inside it. -/
def preorder : Step → List Step
  | .branch condition onTrue onFalse =>
      .branch condition onTrue onFalse :: (preorderAll onTrue ++ preorderAll onFalse)
  | s => [s]
termination_by structural s => s

def preorderAll : List Step → List Step
  | [] => []
  | s :: rest => preorder s ++ preorderAll rest
termination_by structural steps => steps

end

theorem preorderAll_append (xs ys : List Step) :
    preorderAll (xs ++ ys) = preorderAll xs ++ preorderAll ys := by
  induction xs with
  | nil => rfl
  | cons s xs ih => rw [List.cons_append, preorderAll, preorderAll, ih, List.append_assoc]

theorem preorder_eq_cons (s : Step) : preorder s = s :: (preorder s).tail := by
  cases s <;> rfl

mutual

theorem length_preorder (s : Step) : s.preorder.length = s.size := by
  cases s with
  | branch condition onTrue onFalse =>
      rw [preorder, size, List.length_cons, List.length_append, length_preorderAll onTrue,
        length_preorderAll onFalse]
  | extract output => rfl
  | tool call => rfl
  | say utterance => rfl
  | halt => rfl
termination_by structural s

theorem length_preorderAll (steps : List Step) : (preorderAll steps).length = sizeAll steps := by
  cases steps with
  | nil => rfl
  | cons s rest =>
      rw [preorderAll, sizeAll, List.length_append, length_preorder s, length_preorderAll rest]
termination_by structural steps

end

mutual

/-- The steps of a tree in the order in which reading it checks them. -/
def readOrder : Step → List Step
  | .branch condition onTrue onFalse =>
      readOrderAll onFalse ++ (readOrderAll onTrue ++ [.branch condition onTrue onFalse])
  | s => [s]
termination_by structural s => s

def readOrderAll : List Step → List Step
  | [] => []
  | s :: rest => readOrder s ++ readOrderAll rest
termination_by structural steps => steps

end

mutual

theorem mem_readOrder_iff (s : Step) {t : Step} : t ∈ s.readOrder ↔ t ∈ s.preorder := by
  cases s with
  | branch condition onTrue onFalse =>
      rw [readOrder, preorder]
      simp only [List.mem_append, List.mem_cons, List.not_mem_nil, or_false,
        mem_readOrderAll_iff onTrue, mem_readOrderAll_iff onFalse]
      rw [or_comm, or_assoc, or_comm, or_assoc]
      exact or_congr_right or_comm
  | extract output => rfl
  | tool call => rfl
  | say utterance => rfl
  | halt => rfl
termination_by structural s

theorem mem_readOrderAll_iff (steps : List Step) {t : Step} :
    t ∈ readOrderAll steps ↔ t ∈ preorderAll steps := by
  cases steps with
  | nil => rfl
  | cons s rest =>
      rw [readOrderAll, preorderAll, List.mem_append, List.mem_append, mem_readOrder_iff s,
        mem_readOrderAll_iff rest]
termination_by structural steps

end

mutual

/-- Validating a tree is checking its steps in pre-order. -/
theorem validate_eq_checkEach (s : Step) : s.validate = checkEach s.preorder := by
  cases s with
  | branch condition onTrue onFalse =>
      have hcheck :
          check (.branch condition [] []) = check (.branch condition onTrue onFalse) := rfl
      rw [validate, preorder, checkEach, hcheck, checkEach_append,
        validateAll_eq_checkEach onTrue, validateAll_eq_checkEach onFalse]
      cases checkEach (preorderAll onTrue) <;> rfl
  | extract output => exact (checkEach_singleton (.extract output)).symm
  | tool call => exact (checkEach_singleton (.tool call)).symm
  | say utterance => exact (checkEach_singleton (.say utterance)).symm
  | halt => rfl
termination_by structural s

theorem validateAll_eq_checkEach (steps : List Step) :
    validateAll steps = checkEach (preorderAll steps) := by
  cases steps with
  | nil => rfl
  | cons s rest =>
      rw [validateAll, preorderAll, checkEach_append, validate_eq_checkEach s,
        validateAll_eq_checkEach rest]
      cases checkEach s.preorder <;> rfl
termination_by structural steps

end

end Dialogue.Step
