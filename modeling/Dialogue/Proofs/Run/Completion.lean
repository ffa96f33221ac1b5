import Dialogue.Run.Script

/-!
# The steps that a run completes

`Next` is one step that a machine does without an error, `Drops` is an empty frame taken off the
stack, `Completes` is any number of these, in none of which the run finds that it was told to stop,
and `Ends` is the four ways in which a walk stops.

Every turn of a machine is one of them. So each walk completes some steps and then ends, and it can
do so in one way only.
-/
namespace Dialogue

variable {σ : Type}

/-- The first step is done and leads to the next machine. -/
inductive Next (c : Collaborators σ) : Machine σ → Step → Machine σ → Prop
  | onward {s : Step} {rest : List Step} {frames : List (List Step)} {ctx after : Context}
      {world world' : σ} {turn : Nat} (hc : c.stopsAt turn world = false)
      (h : s.dispatch c ctx world = ⟨.ok .onward, after, world'⟩) :
      Next c ⟨(s :: rest) :: frames, ctx, world, turn⟩ s ⟨rest :: frames, after, world', turn + 1⟩
  | enter {s : Step} {rest chosen : List Step} {frames : List (List Step)} {ctx after : Context}
      {world world' : σ} {turn : Nat} (hc : c.stopsAt turn world = false)
      (h : s.dispatch c ctx world = ⟨.ok (.enter chosen), after, world'⟩) :
      Next c ⟨(s :: rest) :: frames, ctx, world, turn⟩ s
        ⟨chosen :: rest :: frames, after, world', turn + 1⟩

inductive Drops (c : Collaborators σ) : Machine σ → Machine σ → Prop
  | drop {frames : List (List Step)} {ctx : Context} {world : σ} {turn : Nat}
      (hc : c.stopsAt turn world = false) :
      Drops c ⟨[] :: frames, ctx, world, turn⟩ ⟨frames, ctx, world, turn + 1⟩

/-- These steps are done one after the other. -/
inductive Completes (c : Collaborators σ) : Machine σ → List Step → Machine σ → Prop
  | none (here : Machine σ) : Completes c here [] here
  | drop {here next last : Machine σ} {done : List Step} (h : Drops c here next)
      (hd : Completes c next done last) : Completes c here done last
  | step {here next last : Machine σ} {s : Step} {done : List Step} (h : Next c here s next)
      (hd : Completes c next done last) : Completes c here (s :: done) last

/-- The walk stops here, after it has begun the given steps and completed none of them. -/
inductive Ends (c : Collaborators σ) : Machine σ → List Step → Stop σ → Prop
  | cancelled {here : Machine σ} (hc : c.stopsAt here.turn here.world = true) :
      Ends c here [] ⟨some .cancelled, here.ctx, here.world⟩
  | finished {ctx : Context} {world : σ} {turn : Nat} (hc : c.stopsAt turn world = false) :
      Ends c ⟨[], ctx, world, turn⟩ [] ⟨none, ctx, world⟩
  | halted {s : Step} {rest : List Step} {frames : List (List Step)} {ctx after : Context}
      {world world' : σ} {turn : Nat} (hc : c.stopsAt turn world = false)
      (h : s.dispatch c ctx world = ⟨.ok .halt, after, world'⟩) :
      Ends c ⟨(s :: rest) :: frames, ctx, world, turn⟩ [s] ⟨none, after, world'⟩
  | failed {s : Step} {rest : List Step} {frames : List (List Step)} {ctx after : Context}
      {world world' : σ} {turn : Nat} {e : RunError} (hc : c.stopsAt turn world = false)
      (h : s.dispatch c ctx world = ⟨.error e, after, world'⟩) :
      Ends c ⟨(s :: rest) :: frames, ctx, world, turn⟩ [s] ⟨some e, after, world'⟩

namespace Machine

def current? (c : Collaborators σ) (m : Machine σ) : Option Step :=
  if c.stopsAt m.turn m.world then none
  else
    match m.frames with
    | (s :: _) :: _ => some s
    | _ => none

/-- The steps that the walk begins, in order. -/
def dispatched (c : Collaborators σ) (m : Machine σ) : List Step :=
  match _h : m.advance c with
  | .stopped _ => (m.current? c).toList
  | .running next => (m.current? c).toList ++ dispatched c next
termination_by m.pending
decreasing_by exact advance_pending _h

variable {c : Collaborators σ} {m next : Machine σ} {s : Step} {begun : List Step} {stop : Stop σ}

theorem ends_of_advance (h : m.advance c = .stopped stop) :
    Ends c m (m.current? c).toList stop := by
  obtain ⟨frames, ctx, world, turn⟩ := m
  unfold advance at h
  unfold current?
  dsimp only at h ⊢
  split at h
  · rename_i hc
    cases h
    rw [if_pos hc]
    exact .cancelled hc
  · rename_i hc
    rw [if_neg hc]
    rw [Bool.not_eq_true] at hc
    split at h
    · cases h
      exact .finished hc
    · cases h
    · split at h
      · rename_i hd
        cases h
        exact .failed hc hd
      · rename_i hd
        cases h
        exact .halted hc hd
      · cases h
      · cases h

theorem next_of_advance (h : m.advance c = .running next) :
    (m.current? c = none ∧ Drops c m next) ∨ ∃ s, m.current? c = some s ∧ Next c m s next := by
  obtain ⟨frames, ctx, world, turn⟩ := m
  unfold advance at h
  unfold current?
  dsimp only at h ⊢
  split at h
  · cases h
  · rename_i hc
    rw [if_neg hc]
    rw [Bool.not_eq_true] at hc
    split at h
    · cases h
    · cases h
      exact .inl ⟨rfl, .drop hc⟩
    · rename_i s rest frames
      split at h
      · cases h
      · cases h
      · rename_i hd
        cases h
        exact .inr ⟨s, rfl, .onward hc hd⟩
      · rename_i hd
        cases h
        exact .inr ⟨s, rfl, .enter hc hd⟩

/-- A walk completes steps and ends. -/
theorem exists_completes_ends (c : Collaborators σ) (m : Machine σ) :
    ∃ done last begun, Completes c m done last ∧ Ends c last begun (m.walk c) ∧
      m.dispatched c = done ++ begun := by
  induction m using walk.induct c with
  | case1 m stop h =>
      refine ⟨[], m, (m.current? c).toList, .none _, ?_, ?_⟩
      · rw [walk, h]
        exact ends_of_advance h
      · rw [dispatched, h, List.nil_append]
  | case2 m next h ih =>
      obtain ⟨done, last, begun, hdone, hends, hbegun⟩ := ih
      rw [walk, dispatched, h]
      dsimp only
      rcases next_of_advance h with ⟨hcurrent, hdrops⟩ | ⟨s, hcurrent, hnext⟩
      · rw [hcurrent]
        exact ⟨done, last, begun, .drop hdrops hdone, hends, hbegun⟩
      · rw [hcurrent]
        refine ⟨s :: done, last, begun, .step hnext hdone, hends, ?_⟩
        rw [hbegun, Option.toList_some, List.singleton_append, List.cons_append]

theorem advance_of_drops (h : Drops c m next) :
    m.advance c = .running next ∧ m.current? c = none := by
  cases h with
  | drop hc => simp only [advance, current?, hc, Bool.false_eq_true, if_false, and_self]

theorem advance_of_next (h : Next c m s next) :
    m.advance c = .running next ∧ m.current? c = some s := by
  cases h with
  | onward hc hd => simp only [advance, current?, hc, hd, Bool.false_eq_true, if_false, and_self]
  | enter hc hd => simp only [advance, current?, hc, hd, Bool.false_eq_true, if_false, and_self]

theorem advance_of_ends (h : Ends c m begun stop) :
    m.advance c = .stopped stop ∧ (m.current? c).toList = begun := by
  cases h with
  | cancelled hc => simp only [advance, current?, hc, if_true, Option.toList_none, and_self]
  | finished hc =>
      simp only [advance, current?, hc, Bool.false_eq_true, if_false, Option.toList_none, and_self]
  | halted hc hd =>
      simp only [advance, current?, hc, hd, Bool.false_eq_true, if_false, Option.toList_some,
        and_self]
  | failed hc hd =>
      simp only [advance, current?, hc, hd, Bool.false_eq_true, if_false, Option.toList_some,
        and_self]

/-- There is one way to go on: the walk of a machine ends where steps that it completes lead to. -/
theorem walk_of_completes {done : List Step} {last : Machine σ} (h : Completes c m done last)
    (he : Ends c last begun stop) : m.walk c = stop ∧ m.dispatched c = done ++ begun := by
  induction h with
  | none here =>
      obtain ⟨hadvance, hcurrent⟩ := advance_of_ends he
      rw [walk, dispatched, hadvance]
      exact ⟨rfl, hcurrent⟩
  | drop hdrops _ ih =>
      obtain ⟨hadvance, hcurrent⟩ := advance_of_drops hdrops
      rw [walk, dispatched, hadvance, hcurrent]
      exact ih he
  | step hnext _ ih =>
      obtain ⟨hadvance, hcurrent⟩ := advance_of_next hnext
      obtain ⟨hstop, hbegun⟩ := ih he
      rw [walk, dispatched, hadvance, hcurrent]
      exact ⟨hstop, congrArg (_ :: ·) hbegun⟩

end Machine

theorem Completes.snoc {c : Collaborators σ} {here last next : Machine σ} {done : List Step}
    {s : Step} (h : Completes c here done last) (hn : Next c last s next) :
    Completes c here (done ++ [s]) next := by
  induction h with
  | none here => exact .step hn (.none next)
  | drop hdrops _ ih => exact .drop hdrops (ih hn)
  | step hfirst _ ih => exact .step hfirst (ih hn)

end Dialogue
