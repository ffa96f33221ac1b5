import Dialogue.Run.Step

/-!
# The walk over a script

A machine holds a stack of step lists, the innermost on top. In one turn it does the first step of
the top list, or drops that list when it is empty; a branch puts its steps on top. It stops when no
list is left, at a halt, at an error, or where it finds at the beginning of a turn that it was told
to.

The walk ends because a step is used up by each turn that keeps or lengthens the stack.
-/
namespace Dialogue

variable {σ : Type}

structure Machine (σ : Type) where
  frames : List (List Step)
  ctx : Context
  world : σ
  /-- The turns that were taken before. -/
  turn : Nat

/-- Where a run stopped, and why if it did not come to its end. -/
structure Stop (σ : Type) where
  error : Option RunError
  ctx : Context
  world : σ

inductive Advance (σ : Type) where
  | running (next : Machine σ)
  | stopped (stop : Stop σ)

namespace Machine

/-- A machine that has all of the steps before it. -/
def start (steps : List Step) (ctx : Context) (world : σ) : Machine σ := ⟨[steps], ctx, world, 0⟩

/-- Take one turn. -/
def advance (c : Collaborators σ) (m : Machine σ) : Advance σ :=
  if c.stopsAt m.turn m.world then .stopped ⟨some .cancelled, m.ctx, m.world⟩
  else
    match m.frames with
    | [] => .stopped ⟨none, m.ctx, m.world⟩
    | [] :: frames => .running ⟨frames, m.ctx, m.world, m.turn + 1⟩
    | (s :: rest) :: frames =>
        match s.dispatch c m.ctx m.world with
        | ⟨.error e, ctx, world⟩ => .stopped ⟨some e, ctx, world⟩
        | ⟨.ok .halt, ctx, world⟩ => .stopped ⟨none, ctx, world⟩
        | ⟨.ok .onward, ctx, world⟩ => .running ⟨rest :: frames, ctx, world, m.turn + 1⟩
        | ⟨.ok (.enter branch), ctx, world⟩ =>
            .running ⟨branch :: rest :: frames, ctx, world, m.turn + 1⟩

/-- How many turns a stack allows at most. -/
def pendingFrames : List (List Step) → Nat
  | [] => 0
  | frame :: frames => 2 * Step.sizeAll frame + 1 + pendingFrames frames

def pending (m : Machine σ) : Nat := pendingFrames m.frames

theorem advance_pending {c : Collaborators σ} {m next : Machine σ}
    (h : m.advance c = .running next) : next.pending < m.pending := by
  obtain ⟨frames, ctx, world, turn⟩ := m
  simp only [advance] at h
  split at h
  · simp at h
  · split at h
    · simp at h
    · cases h
      simp [pending, pendingFrames, Step.sizeAll]
    · rename_i s rest frames'
      have hs := Step.size_pos s
      split at h
      · simp at h
      · simp at h
      · cases h
        simp only [pending, pendingFrames, Step.sizeAll]
        omega
      · rename_i branch _ _ hd
        cases h
        obtain ⟨⟨condition, onTrue, onFalse, rfl, rfl⟩, -, -⟩ := Step.dispatch_eq_enter hd
        simp only [pending, pendingFrames, Step.sizeAll, Step.size]
        split <;> omega

/-- Take turns until the machine stops. -/
def walk (c : Collaborators σ) (m : Machine σ) : Stop σ :=
  match _h : m.advance c with
  | .stopped stop => stop
  | .running next => walk c next
termination_by m.pending
decreasing_by exact advance_pending _h

end Machine

end Dialogue
