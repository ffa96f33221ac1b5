import Dialogue.Proofs.Run.Effect
import Dialogue.Proofs.Script.Position

/-!
# The positions that a run comes to

The visits of a run do not say where their steps stand. They can be followed through the tree: a
visit is at the position that is next to be done, and a branch that is visited puts the positions of
the steps it chooses in front of the others. What carries this through a walk is the agenda of the
positions still to be done. They hold the steps that the walk still has in front of it, and they are
apart, so that a run comes to no position twice, to none before one that it has left behind, and to
no steps of the branch that was not chosen.
-/
namespace Dialogue

open Step (Position find?)
open Step.Position

variable {σ : Type} {c : Collaborators σ}

namespace Visit

def holds (v : Visit σ) : Bool :=
  match v.step with
  | .branch condition _ _ => v.ctx.holds condition
  | _ => false

/-- The positions of the visits, where these positions are still to be done. -/
def positions : (agenda : List Position) → List (Visit σ) → List Position
  | p :: agenda, v :: visits => p :: positions (p.children v.step v.holds ++ agenda) visits
  | _, _ => []

end Visit

section
variable {here next : Machine σ} {s : Step}

theorem Next.steps_eq (h : Next c here s next) :
    ∃ rest, here.steps = s :: rest ∧ next.steps = s.held (here.visit s).holds ++ rest := by
  cases h with
  | @onward _ rest frames ctx _ world _ _ _ h =>
      have hnone : s.held (Visit.mk s ctx world).holds = [] := by
        cases s with
        | branch condition onTrue onFalse => cases h
        | extract output => rfl
        | tool call => rfl
        | say u => rfl
        | halt => rfl
      exact ⟨rest ++ frames.flatten, rfl, by rw [Machine.visit, hnone]; rfl⟩
  | @enter _ rest _ frames ctx _ _ _ _ _ h =>
      obtain ⟨⟨condition, onTrue, onFalse, rfl, rfl⟩, -, -⟩ := Step.dispatch_eq_enter h
      refine ⟨rest ++ frames.flatten, rfl, congrArg (· ++ (rest ++ frames.flatten)) ?_⟩
      show (if ctx.holds condition then onTrue else onFalse) =
        Step.held (.branch condition onTrue onFalse) (ctx.holds condition)
      cases ctx.holds condition <;> rfl

theorem Next.ne_halt (h : Next c here s next) : s ≠ .halt := by
  rintro rfl
  cases h with
  | onward _ h => cases h
  | enter _ h => cases h

end

/-- The visits are of the steps at their positions. Of two positions the second is inside the first
or wholly behind it, and all are on the agenda or inside what is. -/
structure Follows (root : List Step) (agenda : List Position) (visits : List (Visit σ)) :
    Prop where
  found : (Visit.positions agenda visits).map (find? root) = visits.map (fun v => some v.step)
  ordered : (Visit.positions agenda visits).Pairwise fun p q => Inside p q ∨ Apart p q
  covered : ∀ q ∈ Visit.positions agenda visits, ∃ p ∈ agenda, Covers p q

section
variable {root rest : List Step} {agenda : List Position} {p : Position} {v : Visit σ}
variable {visits : List (Visit σ)}

theorem follows_nil (root : List Step) (agenda : List Position) :
    Follows root agenda ([] : List (Visit σ)) := by
  have hnone : Visit.positions agenda ([] : List (Visit σ)) = [] := by
    cases agenda <;> rfl
  constructor
  · rw [hnone]
    rfl
  · rw [hnone]
    exact .nil
  · rw [hnone]
    exact List.forall_mem_nil _

theorem Follows.cons (hagenda : Step.Agenda root (p :: agenda) (v.step :: rest))
    (h : Follows root (p.children v.step v.holds ++ agenda) visits) :
    Follows root (p :: agenda) (v :: visits) := by
  obtain ⟨hapart, -⟩ := List.pairwise_cons.1 hagenda.apart
  -- What comes later is in the branch that this step chooses, or was on the agenda behind it.
  have hbehind : ∀ q ∈ Visit.positions (p.children v.step v.holds ++ agenda) visits,
      Inside p q ∨ ∃ r ∈ agenda, Covers r q := by
    intro q hq
    obtain ⟨r, hr, hcovers⟩ := h.covered q hq
    rcases List.mem_append.1 hr with hchild | hagenda
    · obtain ⟨j, -, rfl⟩ := List.mem_map.1 hchild
      exact .inl ((p.inside_child v.holds j).covers hcovers)
    · exact .inr ⟨r, hagenda, hcovers⟩
  constructor
  · rw [Visit.positions, List.map_cons, List.map_cons, hagenda.find?, h.found]
  · rw [Visit.positions]
    refine List.pairwise_cons.2 ⟨fun q hq => ?_, h.ordered⟩
    rcases hbehind q hq with hinside | ⟨r, hr, hcovers⟩
    · exact .inl hinside
    · exact .inr ((hapart r hr).covers (.inl rfl) hcovers)
  · rw [Visit.positions]
    refine List.forall_mem_cons.2 ⟨⟨p, List.mem_cons_self, .inl rfl⟩, fun q hq => ?_⟩
    rcases hbehind q hq with hinside | ⟨r, hr, hcovers⟩
    · exact ⟨p, List.mem_cons_self, .inr hinside⟩
    · exact ⟨r, List.mem_cons_of_mem p hr, hcovers⟩

end

namespace Machine

/-- A walk can be followed from any agenda for what it has in front of it. -/
theorem follows_visits (root : List Step) (m : Machine σ) {agenda : List Position}
    (h : Step.Agenda root agenda m.steps) : Follows root agenda (m.visits c) := by
  -- The root stays the same along the walk, while the agenda changes with what is left.
  refine m.walk_induction (c := c) (P := fun here visits _ =>
    ∀ agenda, Step.Agenda root agenda here.steps → Follows root agenda visits) ?_ ?_ ?_ agenda h
  · intro here begun stop h agenda hagenda
    rcases h.begun_eq with rfl | ⟨s, rest, hsteps, rfl⟩
    · exact follows_nil root agenda
    · rw [hsteps] at hagenda
      cases agenda with
      | nil => cases hagenda.found
      | cons p agenda => exact Follows.cons (v := here.visit s) hagenda (follows_nil root _)
  · intro here after visits stop h ih agenda hagenda
    exact ih agenda (h.same.1 ▸ hagenda)
  · intro here s next visits stop h ih agenda hagenda
    obtain ⟨rest, hsteps, hnext⟩ := h.steps_eq
    rw [hsteps] at hagenda
    cases agenda with
    | nil => cases hagenda.found
    | cons p agenda =>
        refine Follows.cons (v := here.visit s) hagenda (ih _ ?_)
        rw [hnext]
        exact hagenda.next _

theorem ne_halt_of_mem_dropLast (m : Machine σ) :
    ∀ v ∈ (m.visits c).dropLast, v.step ≠ .halt := by
  refine m.walk_induction (c := c)
    (P := fun _ visits _ => ∀ v ∈ visits.dropLast, v.step ≠ .halt) ?_ ?_ ?_
  · intro here begun stop h
    rcases h.begun_eq with rfl | ⟨s, rest, -, rfl⟩
    · exact List.forall_mem_nil _
    · exact List.forall_mem_nil _
  · intro here after visits stop _ ih
    exact ih
  · intro here s next visits stop h ih
    cases visits with
    | nil => exact List.forall_mem_nil _
    | cons v visits => exact List.forall_mem_cons.2 ⟨h.ne_halt, ih⟩

end Machine

def Call.invokes : Call → Bool
  | .invoke _ _ _ => true
  | _ => false

def Call.completes : Call → Bool
  | .complete _ => true
  | _ => false

namespace Step

def callsTool : Step → Bool
  | .tool _ => true
  | _ => false

def speaksLast : Step → Bool
  | .say u => u.speechChannel? == some .final
  | _ => false

theorem countP_invokes_calls (s : Step) (ctx : Context) (world : σ) :
    (s.calls c ctx world).countP Call.invokes ≤ [s].countP callsTool := by
  cases s with
  | tool call =>
      rw [calls]
      rcases call.calls_cases c ctx world with h | ⟨_, _, h⟩ | ⟨_, _, _, h⟩
      · rw [h]
        exact Nat.zero_le _
      · rw [h]
        exact Nat.zero_le _
      · rw [h]
        exact Nat.le_refl 1
  | say u =>
      rw [calls, Utterance.calls]
      split <;> exact Nat.zero_le _
  | extract output => exact Nat.zero_le _
  | branch condition onTrue onFalse => exact Nat.zero_le _
  | halt => exact Nat.zero_le _

theorem countP_completes_calls (s : Step) (ctx : Context) (world : σ) :
    (s.calls c ctx world).countP Call.completes ≤ [s].countP speaksLast := by
  cases s with
  | tool call =>
      rw [calls]
      rcases call.calls_cases c ctx world with h | ⟨_, _, h⟩ | ⟨_, _, _, h⟩ <;>
        (rw [h]; exact Nat.zero_le _)
  | say u =>
      rw [calls, Utterance.calls, Utterance.asks]
      split
      · rename_i hasks
        rw [List.countP_singleton, List.countP_singleton, speaksLast,
          (Bool.and_eq_true_iff.1 hasks).1]
        exact Nat.le_refl _
      · exact Nat.zero_le _
  | extract output => exact Nat.zero_le _
  | branch condition onTrue onFalse => exact Nat.zero_le _
  | halt => exact Nat.zero_le _

end Step

/-- Where each step asks at most once, and only if it is of a kind, there are no more calls than
visits of that kind. -/
theorem Visit.countP_flatMap_calls_le {asked : Call → Bool} {kind : Step → Bool}
    (h : ∀ (s : Step) (ctx : Context) (world : σ),
      (s.calls c ctx world).countP asked ≤ [s].countP kind) (visits : List (Visit σ)) :
    (visits.flatMap (Visit.calls c)).countP asked ≤ (visits.map Visit.step).countP kind := by
  induction visits with
  | nil => exact Nat.le_refl _
  | cons v visits ih =>
      rw [List.flatMap_cons, List.countP_append, List.map_cons, ← List.singleton_append,
        List.countP_append]
      exact Nat.add_le_add (h v.step v.ctx v.world) ih

namespace Script

section
variable (script : Script) (c : Collaborators σ) (setup : RunSetup) (input : Fields) (world : σ)

/-- The positions of the steps that a run of the script begins, in the order in which it does. -/
def positions : List Position :=
  Visit.positions (Step.tops script.steps) (script.visits c setup input world)

theorem follows_visits :
    Follows script.steps (Step.tops script.steps) (script.visits c setup input world) := by
  unfold visits
  cases script.validate with
  | error _ => exact follows_nil _ _
  | ok _ =>
      refine Machine.follows_visits script.steps _ ?_
      rw [machine, Machine.steps_start]
      exact Step.agenda_tops script.steps

theorem ne_halt_of_mem_dropLast :
    ∀ p ∈ (script.positions c setup input world).dropLast,
      find? script.steps p ≠ some .halt := by
  have hvisits : ∀ v ∈ (script.visits c setup input world).dropLast, v.step ≠ .halt := by
    unfold visits
    cases script.validate with
    | error _ => exact List.forall_mem_nil _
    | ok _ => exact Machine.ne_halt_of_mem_dropLast _
  intro p hp
  have hfound := congrArg List.dropLast (script.follows_visits c setup input world).found
  rw [← List.map_dropLast, ← List.map_dropLast] at hfound
  have hmem := List.mem_map_of_mem (f := find? script.steps) hp
  rw [positions, hfound] at hmem
  obtain ⟨v, hv, hstep⟩ := List.mem_map.1 hmem
  rw [← hstep]
  exact fun h => hvisits v hv (Option.some.inj h)

theorem dispatched_sublist :
    (script.dispatched c setup input world).Sublist (Step.preorderAll script.steps) := by
  unfold dispatched
  cases script.validate with
  | error _ => exact List.nil_sublist _
  | ok _ =>
      have h := (script.machine setup input world).dispatched_sublist (c := c)
      rwa [machine, Machine.steps_start] at h

theorem countP_calls_le {asked : Call → Bool} {kind : Step → Bool} {closing : Nat}
    (h : ∀ (s : Step) (ctx : Context) (world : σ),
      (s.calls c ctx world).countP asked ≤ [s].countP kind)
    (hclosing : ∀ log, [Call.complete log].countP asked ≤ closing) :
    (script.calls c setup input world).countP asked ≤
      (Step.preorderAll script.steps).countP kind + closing := by
  cases hv : script.validate with
  | error reason =>
      rw [(script.calls_of_error c setup input world hv).1]
      exact Nat.zero_le _
  | ok _ =>
      rw [script.calls_eq c setup input world hv, List.countP_append]
      refine Nat.add_le_add ?_ ?_
      · have hasked := Visit.countP_flatMap_calls_le h (script.visits c setup input world)
        rw [script.visits_map_step] at hasked
        exact Nat.le_trans hasked (script.dispatched_sublist c setup input world).countP_le
      · rw [Stop.closingCalls]
        split
        · exact hclosing _
        · exact Nat.zero_le _

end

/-- A run visits steps in the order of the document and no step twice. It does not come to steps in
both branches of one step, and not to any step behind a halt. So it begins at most as many steps as
there are, invokes tools at most as often as there are calls of tools, and asks for replies at most
once more than there are texts on the final channel. -/
theorem run_in_document_order (script : Script) (c : Collaborators σ) (setup : RunSetup)
    (input : Fields) (world : σ) :
    let visits := script.visits c setup input world
    let positions := script.positions c setup input world
    let calls := script.calls c setup input world
    positions.map (find? script.steps) = visits.map (fun v => some v.step) ∧
    positions.Pairwise Before ∧ positions.Nodup ∧
    (∀ p ∈ positions, ∀ q ∈ positions, ¬ Opposite p q) ∧
    (∀ p ∈ positions.dropLast, find? script.steps p ≠ some .halt) ∧
    (visits.map Visit.step).Sublist (Step.preorderAll script.steps) ∧
    visits.length ≤ Step.sizeAll script.steps ∧
    calls.countP Call.invokes ≤ (Step.preorderAll script.steps).countP Step.callsTool ∧
    calls.countP Call.completes ≤ (Step.preorderAll script.steps).countP Step.speaksLast + 1 := by
  intro visits positions calls
  have hfollows := script.follows_visits c setup input world
  have hbefore : positions.Pairwise Before :=
    hfollows.ordered.imp fun h => h.elim Inside.before Apart.before
  have hsublist : (visits.map Visit.step).Sublist (Step.preorderAll script.steps) := by
    rw [script.visits_map_step]
    exact script.dispatched_sublist c setup input world
  refine ⟨hfollows.found, hbefore, hbefore.imp ?_, ?_,
    script.ne_halt_of_mem_dropLast c setup input world, hsublist, ?_, ?_, ?_⟩
  · rintro p _ h rfl
    exact Before.irrefl p h
  · have hpairs : positions.Pairwise fun p q => ¬ Opposite p q :=
      hfollows.ordered.imp fun h => h.elim Inside.not_opposite Apart.not_opposite
    exact hpairs.forall_of_forall_of_flip (fun p _ => Opposite.irrefl p)
      (hpairs.imp fun h ho => h ho.symm)
  · rw [← Step.length_preorderAll, ← List.length_map (f := Visit.step)]
    exact hsublist.length_le
  · exact script.countP_calls_le c setup input world Step.countP_invokes_calls fun log =>
      Nat.le_refl 0
  · exact script.countP_calls_le c setup input world Step.countP_completes_calls fun log =>
      Nat.le_refl 1

/-- The first condition fails, and what is behind the halt in its second branch is not begun. -/
example :
    let c : Collaborators Unit :=
      { complete _ w := (.ok "", w), resolve _ _ w := (none, w), cancelled _ := false }
    let inner : List Step := [.branch "$vars.x" [] [], .halt, .halt]
    let script : Script := { steps := [.branch "$vars.x" [.halt] inner, .halt] }
    script.positions c {} [] () = [.top 0, .within 0 false (.top 0), .within 0 false (.top 1)] := by
  decide +kernel

end Script

end Dialogue
