import Dialogue.Script.Basic

/-!
# Positions in a tree of steps

A step stands in a list of steps at an index, or inside the step at an index, in one of its two
branches. Positions are in the order of the document: a step comes before those inside it, its first
branch before its second one, and all of it before the steps behind it.

Two positions of which one is before the other stand to each other in one of three ways. The second
may be inside the first. They may be apart, which all positions inside them then are as well. Or
they are opposite, in the two branches of one step. A run never comes to opposite positions, so only
the first two are kept by its steps.
-/
namespace Dialogue.Step

/-- Where a step stands in a list of steps. -/
inductive Position where
  | top (index : Nat)
  /-- In a branch of the step at this index: the first one, for when its condition holds, or the
  second. -/
  | within (index : Nat) (holds : Bool) (position : Position)
  deriving Repr, DecidableEq

namespace Position

def index : Position → Nat
  | top i => i
  | within i _ _ => i

def child (holds : Bool) (j : Nat) : Position → Position
  | top i => within i holds (top j)
  | within i outer p => within i outer (p.child holds j)

/-- The order of the document. -/
inductive Before : Position → Position → Prop
  | inside (i : Nat) (holds : Bool) (p : Position) : Before (top i) (within i holds p)
  | branches (i : Nat) (p q : Position) : Before (within i true p) (within i false q)
  | behind {p q : Position} (h : p.index < q.index) : Before p q
  | deeper (i : Nat) (holds : Bool) {p q : Position} (h : Before p q) :
      Before (within i holds p) (within i holds q)

/-- The positions are in the two branches of one step. -/
inductive Opposite : Position → Position → Prop
  | branches (i : Nat) {holds other : Bool} (h : holds ≠ other) (p q : Position) :
      Opposite (within i holds p) (within i other q)
  | deeper (i : Nat) (holds : Bool) {p q : Position} (h : Opposite p q) :
      Opposite (within i holds p) (within i holds q)

/-- The second position is inside the step at the first. -/
inductive Inside : Position → Position → Prop
  | inside (i : Nat) (holds : Bool) (p : Position) : Inside (top i) (within i holds p)
  | deeper (i : Nat) (holds : Bool) {p q : Position} (h : Inside p q) :
      Inside (within i holds p) (within i holds q)

/-- The positions are those of two steps in one list, or inside these, the first one before. -/
inductive Apart : Position → Position → Prop
  | behind {p q : Position} (h : p.index < q.index) : Apart p q
  | deeper (i : Nat) (holds : Bool) {p q : Position} (h : Apart p q) :
      Apart (within i holds p) (within i holds q)

/-- The second position is the first or inside it. -/
def Covers (p q : Position) : Prop := q = p ∨ Inside p q

variable {p q r : Position}

theorem Before.irrefl (p : Position) : ¬ Before p p := by
  intro h
  induction p with
  | top i =>
      cases h with
      | behind h => exact Nat.lt_irrefl _ h
  | within i holds p ih =>
      cases h with
      | behind h => exact Nat.lt_irrefl _ h
      | deeper _ _ h => exact ih h

theorem Opposite.symm (h : Opposite p q) : Opposite q p := by
  induction h with
  | branches i h p q => exact .branches i h.symm q p
  | deeper i holds _ ih => exact .deeper i holds ih

theorem Opposite.irrefl (p : Position) : ¬ Opposite p p := by
  intro h
  induction p with
  | top i => cases h
  | within i holds p ih =>
      cases h with
      | branches _ h => exact h rfl
      | deeper _ _ h => exact ih h

theorem Opposite.index_eq (h : Opposite p q) : q.index = p.index := by
  cases h <;> rfl

theorem Inside.index_eq (h : Inside p q) : q.index = p.index := by
  cases h <;> rfl

theorem Inside.before (h : Inside p q) : Before p q := by
  induction h with
  | inside i holds p => exact .inside i holds p
  | deeper i holds _ ih => exact .deeper i holds ih

theorem Inside.not_opposite (h : Inside p q) : ¬ Opposite p q := by
  intro ho
  induction h with
  | inside i holds p => cases ho
  | deeper i holds _ ih =>
      cases ho with
      | branches _ hne => exact hne rfl
      | deeper _ _ ho => exact ih ho

theorem Inside.trans (hpq : Inside p q) (hqr : Inside q r) : Inside p r := by
  induction hpq generalizing r with
  | inside i holds p =>
      cases hqr with
      | deeper _ _ h => exact .inside i holds _
  | deeper i holds _ ih =>
      cases hqr with
      | deeper _ _ h => exact .deeper i holds (ih h)

theorem inside_child (p : Position) (holds : Bool) (j : Nat) : Inside p (p.child holds j) := by
  induction p with
  | top i => exact .inside i holds _
  | within i outer p ih => exact .deeper i outer ih

theorem Inside.covers (hpq : Inside p q) (hqr : Covers q r) : Inside p r := by
  rcases hqr with rfl | hqr
  · exact hpq
  · exact hpq.trans hqr

theorem Covers.index_eq (h : Covers p q) : q.index = p.index := by
  rcases h with rfl | h
  · rfl
  · exact h.index_eq

theorem covers_within {i : Nat} {holds : Bool} (h : Covers (within i holds p) q) :
    ∃ q', q = within i holds q' ∧ Covers p q' := by
  rcases h with rfl | h
  · exact ⟨p, rfl, .inl rfl⟩
  · cases h with
    | deeper _ _ h => exact ⟨_, rfl, .inr h⟩

theorem Apart.before (h : Apart p q) : Before p q := by
  induction h with
  | behind h => exact .behind h
  | deeper i holds _ ih => exact .deeper i holds ih

theorem Apart.not_opposite (h : Apart p q) : ¬ Opposite p q := by
  intro ho
  induction h with
  | behind h => exact Nat.ne_of_gt h ho.index_eq
  | deeper i holds _ ih =>
      cases ho with
      | branches _ hne => exact hne rfl
      | deeper _ _ ho => exact ih ho

theorem Apart.covers {p' q' : Position} (h : Apart p q) (hp : Covers p p') (hq : Covers q q') :
    Apart p' q' := by
  induction h generalizing p' q' with
  | behind h =>
      refine .behind ?_
      rw [hp.index_eq, hq.index_eq]
      exact h
  | deeper i holds _ ih =>
      obtain ⟨p'', rfl, hp''⟩ := covers_within hp
      obtain ⟨q'', rfl, hq''⟩ := covers_within hq
      exact .deeper i holds (ih hp'' hq'')

theorem apart_child (p : Position) (holds : Bool) {i j : Nat} (h : i < j) :
    Apart (p.child holds i) (p.child holds j) := by
  induction p with
  | top n => exact .deeper n holds (.behind h)
  | within n outer p ih => exact .deeper n outer ih

end Position

def held : Step → (holds : Bool) → List Step
  | branch _ onTrue _, true => onTrue
  | branch _ _ onFalse, false => onFalse
  | _, _ => []

def find? (steps : List Step) : Position → Option Step
  | .top i => steps[i]?
  | .within i holds p => steps[i]?.bind fun s => find? (s.held holds) p

theorem find?_child (steps : List Step) (p : Position) (holds : Bool) (j : Nat) :
    find? steps (p.child holds j) = (find? steps p).bind fun s => (s.held holds)[j]? := by
  induction p generalizing steps with
  | top i => rfl
  | within i outer p ih =>
      rw [Position.child, find?, find?, Option.bind_assoc]
      exact congrArg steps[i]?.bind (funext fun s => ih _)

/-- The positions of the steps in a branch of the step at this position. -/
def Position.children (p : Position) (s : Step) (holds : Bool) : List Position :=
  (List.range (s.held holds).length).map (p.child holds)

theorem map_getElem?_range (steps : List Step) :
    (List.range steps.length).map (steps[·]?) = steps.map some := by
  refine List.ext_getElem (by simp) fun i hi _ => ?_
  rw [List.length_map, List.length_range] at hi
  rw [List.getElem_map, List.getElem_map, List.getElem_range, List.getElem?_eq_getElem hi]

theorem map_find?_children {steps : List Step} {p : Position} {s : Step}
    (h : find? steps p = some s) (holds : Bool) :
    (p.children s holds).map (find? steps) = (s.held holds).map some := by
  have hread : find? steps ∘ p.child holds = ((s.held holds)[·]?) := by
    funext j
    rw [Function.comp_apply, find?_child, h, Option.bind_some]
  rw [Position.children, List.map_map, hread, map_getElem?_range]

/-- Positions of steps that are to be done, in order: no two of them are opposite or one inside the
other, and neither is what is inside them. -/
structure Agenda (root : List Step) (agenda : List Position) (steps : List Step) : Prop where
  found : agenda.map (find? root) = steps.map some
  apart : agenda.Pairwise Position.Apart

def tops (steps : List Step) : List Position := (List.range steps.length).map .top

theorem agenda_tops (root : List Step) : Agenda root (tops root) root where
  found := by
    rw [tops, List.map_map]
    exact map_getElem?_range root
  apart := List.pairwise_map.2 (List.pairwise_lt_range.imp fun h => .behind h)

section
variable {root rest : List Step} {agenda : List Position} {p : Position} {s : Step}

theorem Agenda.find? (h : Agenda root (p :: agenda) (s :: rest)) :
    Step.find? root p = some s :=
  (List.cons.inj h.found).1

/-- A step is done, and the steps of one of its branches are done in its place. -/
theorem Agenda.next (h : Agenda root (p :: agenda) (s :: rest)) (holds : Bool) :
    Agenda root (p.children s holds ++ agenda) (s.held holds ++ rest) where
  found := by
    rw [List.map_append, List.map_append, map_find?_children h.find?]
    exact congrArg _ (List.cons.inj h.found).2
  apart := by
    obtain ⟨hp, hagenda⟩ := List.pairwise_cons.1 h.apart
    refine List.pairwise_append.2 ⟨?_, hagenda, ?_⟩
    · exact List.pairwise_map.2 (List.pairwise_lt_range.imp fun h => p.apart_child holds h)
    · intro q hq r hr
      obtain ⟨j, -, rfl⟩ := List.mem_map.1 hq
      exact (hp r hr).covers (.inr (p.inside_child holds j)) (.inl rfl)

end

end Dialogue.Step
