import Dialogue.Proofs.Run.Effect
import Dialogue.Proofs.Variables
import Mathlib.Data.List.Flatten

/-!
# What a run binds

The names that a step binds can be told from the script: the outputs of an extraction and the name
under which a result is kept. A run binds no others, so what it finds under any other name, in any
case, it leaves there under its spelling; and it never takes a binding away. This holds from each
moment of a run to every later one, however the run ends.
-/
namespace Dialogue

variable {σ : Type} {c : Collaborators σ}

/-- The names that the step binds when it is done, those of steps inside it apart. -/
def Step.binds : Step → List String
  | .extract output => output.map Prod.fst
  | .tool call => [call.saveAs]
  | .branch _ _ _ | .say _ | .halt => []

def Step.targetsAll (steps : List Step) : List String := (Step.preorderAll steps).flatMap Step.binds

/-- The names that the script may bind. -/
def Script.targets (script : Script) : List String := Step.targetsAll script.steps

namespace Variables

/-- What the store holds under a name in any case, with the spelling. -/
def binding? (vars : Variables) (name : String) : Option Binding :=
  Entries.get? (Text.lowercase name) vars.bindings

theorem contains_eq (vars : Variables) (name : String) :
    vars.contains name = (vars.binding? name).isSome := rfl

theorem mem_snapshot_iff_binding? {vars : Variables} {s : String × Json} :
    s ∈ vars.snapshot ↔ vars.binding? s.1 = some ⟨s.1, s.2⟩ := by
  rw [mem_snapshot_iff, binding?, Entries.get?_eq_some_iff vars.ascending]
  rfl

theorem binding?_set (vars : Variables) (name : String) (value : Json) (other : String) :
    (vars.set name value).binding? other =
      if Text.lowercase other = Text.lowercase name then some ⟨name, value⟩
      else vars.binding? other := by
  split
  · rename_i h
    rw [binding?, h]
    exact Entries.get?_insert_self _ _ _
  · rename_i h
    exact Entries.get?_insert_of_ne h _ _

/-- What is held by the first store is held by the second, if with other values. -/
def KeptBy (before after : Variables) : Prop :=
  ∀ name, before.contains name = true → after.contains name = true

/-- The second store is the first with some of these names bound anew. -/
structure Rebinds (targets : List String) (before after : Variables) : Prop where
  untouched {name : String} (h : Text.lowercase name ∉ targets.map Text.lowercase) :
    after.binding? name = before.binding? name
  kept : before.KeptBy after

namespace Rebinds
variable {targets more : List String} {before between after : Variables}

theorem refl (targets : List String) (vars : Variables) : Rebinds targets vars vars :=
  ⟨fun _ => rfl, fun _ => id⟩

theorem trans (h : Rebinds targets before between) (h' : Rebinds targets between after) :
    Rebinds targets before after :=
  ⟨fun hn => (h'.untouched hn).trans (h.untouched hn), fun name hn => h'.kept name (h.kept name hn)⟩

theorem mono (h : Rebinds targets before after) (hsub : targets ⊆ more) :
    Rebinds more before after :=
  ⟨fun hn => h.untouched fun hm => hn (List.map_subset _ hsub hm), h.kept⟩

theorem set (vars : Variables) (name : String) (value : Json) :
    Rebinds [name] vars (vars.set name value) := by
  refine ⟨?_, ?_⟩
  · intro other h
    rw [List.map_singleton, List.mem_singleton] at h
    rw [binding?_set, if_neg h]
  · intro other h
    rw [contains_eq, binding?_set]
    split
    · rfl
    · exact h

theorem held_before {name : String} (h : Rebinds targets before after)
    (hn : after.contains name = true) :
    before.contains name = true ∨ Text.lowercase name ∈ targets.map Text.lowercase := by
  by_cases hm : Text.lowercase name ∈ targets.map Text.lowercase
  · exact .inr hm
  · rw [contains_eq, h.untouched hm, ← contains_eq] at hn
    exact .inl hn

end Rebinds

theorem mem_of_contains_ofFields {sets : List (String × Json)} {name : String}
    (h : (ofFields sets).contains name = true) :
    Text.lowercase name ∈ sets.map fun s => Text.lowercase s.1 := by
  obtain ⟨value, hvalue⟩ := Entries.contains_iff.1 h
  have hkey : Text.lowercase name ∈ Entries.keys (ofFields sets).bindings :=
    List.mem_map_of_mem (Entries.mem_of_get? hvalue)
  exact List.mem_dedup.1 ((keys_bindings_perm sets).mem_iff.1 hkey)

end Variables

open Variables (Rebinds)

namespace Context

theorem bindAll_rebinds (values : List (String × Json)) (ctx : Context) :
    Rebinds (values.map Prod.fst) ctx.vars
      (values.foldl (fun after (name, value) => after.bind name value) ctx).vars := by
  induction values generalizing ctx with
  | nil => exact .refl _ _
  | cons e values ih =>
      have hfirst : Rebinds (e.1 :: values.map Prod.fst) ctx.vars (ctx.bind e.1 e.2).vars :=
        (Rebinds.set ctx.vars e.1 e.2).mono (by simp)
      exact hfirst.trans ((ih (ctx.bind e.1 e.2)).mono (List.subset_cons_self _ _))

theorem extract_rebinds (ctx : Context) (output : Entries String) :
    Rebinds (output.map Prod.fst) ctx.vars (ctx.extract output).vars := by
  have h := bindAll_rebinds (output.map fun e => (e.1, ctx.evaluate e.2)) ctx
  rwa [List.map_map] at h

end Context

theorem Step.Does.rebinds {s : Step} {ctx after : Context} {world world' : σ}
    (h : s.Does c ctx world after world') : Rebinds s.binds ctx.vars after.vars := by
  cases h with
  | bound output => exact ctx.extract_rebinds output
  | @called call _ _ _ _ _ result _ _ _ => exact Rebinds.set ctx.vars call.saveAs result
  | said _ _ => exact .refl _ _
  | replied _ _ _ => exact .refl _ _
  | thought _ _ => exact .refl _ _
  | silent _ _ => exact .refl _ _

theorem Next.rebinds {here next : Machine σ} {s : Step} (h : Next c here s next) :
    Rebinds (Step.targetsAll here.steps) here.ctx.vars next.ctx.vars := by
  have hmem : s ∈ Step.preorderAll here.steps := h.preorder_sublist.subset List.mem_cons_self
  have hbinds : s.binds ⊆ Step.targetsAll here.steps :=
    fun _ hn => List.mem_flatMap.2 ⟨s, hmem, hn⟩
  rcases h.does_or_enters with hdoes | ⟨_, _, _, -, hctx⟩
  · exact hdoes.rebinds.mono hbinds
  · rw [hctx]
    exact .refl _ _

theorem Next.targets_subset {here next : Machine σ} {s : Step} (h : Next c here s next) :
    Step.targetsAll next.steps ⊆ Step.targetsAll here.steps :=
  (((List.sublist_cons_self _ _).trans h.preorder_sublist).flatMap _).subset

/-- The stores that a walk goes through: that of each step as it is begun, and the last. -/
def storesThrough (visits : List (Visit σ)) (stop : Stop σ) : List Variables :=
  visits.map (·.ctx.vars) ++ [stop.ctx.vars]

/-- Along a walk nothing but the targets of the steps is bound, and nothing is unbound. -/
theorem Machine.walk_rebinds (m : Machine σ) :
    (∀ vars ∈ storesThrough (m.visits c) (m.walk c),
      Rebinds (Step.targetsAll m.steps) m.ctx.vars vars) ∧
    (storesThrough (m.visits c) (m.walk c)).Pairwise Variables.KeptBy := by
  refine m.walk_induction (c := c) (P := fun here visits stop =>
    (∀ vars ∈ storesThrough visits stop,
      Rebinds (Step.targetsAll here.steps) here.ctx.vars vars) ∧
    (storesThrough visits stop).Pairwise Variables.KeptBy) ?_ ?_ ?_
  · intro here begun stop h
    -- Nothing is done where a walk stops, so there is one store only.
    have hsame : ∀ vars ∈ storesThrough (begun.map here.visit) stop, vars = here.ctx.vars := by
      intro vars hvars
      rw [storesThrough, List.map_map, h.ctx_eq] at hvars
      rcases List.mem_append.1 hvars with hm | hm
      · obtain ⟨s, -, rfl⟩ := List.mem_map.1 hm
        rfl
      · exact List.mem_singleton.1 hm
    refine ⟨?_, List.pairwise_of_forall_mem_list ?_⟩
    · intro vars hvars
      rw [hsame vars hvars]
      exact .refl _ _
    · intro earlier he later hl
      rw [hsame earlier he, hsame later hl]
      exact fun _ => id
  · intro here after visits stop h ih
    rwa [← h.same.1, ← h.same.2]
  · intro here s next visits stop h ⟨hrebinds, hkept⟩
    have hlater : ∀ vars ∈ storesThrough visits stop,
        Rebinds (Step.targetsAll here.steps) here.ctx.vars vars := fun vars hvars =>
      h.rebinds.trans ((hrebinds vars hvars).mono h.targets_subset)
    refine ⟨List.forall_mem_cons.2 ⟨.refl _ _, hlater⟩, List.pairwise_cons.2 ⟨?_, hkept⟩⟩
    exact fun vars hvars => (hlater vars hvars).kept

theorem Stop.close_vars (stop : Stop σ) (prompt : String) :
    (stop.close c prompt).ctx.vars = stop.ctx.vars := by
  cases h : stop.lacksText with
  | false => rw [close_of_text h]
  | true =>
      rw [close_of_lacksText h]
      split <;> rfl

namespace Script

/-- The stores that a run of the script goes through: the first, that of each step as it is begun,
and the last. -/
def stores (script : Script) (c : Collaborators σ) (setup : RunSetup) (input : Fields)
    (world : σ) : List Variables :=
  .ofFields (script.vars.getD []) ::
    storesThrough (script.visits c setup input world) (script.stop c setup input world)

section
variable (script : Script) (c : Collaborators σ) (setup : RunSetup) (input : Fields) (world : σ)

theorem stores_rebind :
    (∀ vars ∈ script.stores c setup input world,
      Rebinds script.targets (.ofFields (script.vars.getD [])) vars) ∧
    (script.stores c setup input world).Pairwise Variables.KeptBy := by
  have hthrough : (∀ vars ∈ storesThrough (script.visits c setup input world)
        (script.stop c setup input world),
        Rebinds script.targets (.ofFields (script.vars.getD [])) vars) ∧
      (storesThrough (script.visits c setup input world)
        (script.stop c setup input world)).Pairwise Variables.KeptBy := by
    cases hv : script.validate with
    | error reason =>
        rw [(script.calls_of_error c setup input world hv).2, Script.stop, hv]
        exact ⟨List.forall_mem_singleton.2 (.refl _ _), List.pairwise_singleton _ _⟩
    | ok _ =>
        have hwalk := (script.machine setup input world).walk_rebinds (c := c)
        rw [machine, Machine.steps_start] at hwalk
        rw [visits, Script.stop, hv, storesThrough]
        dsimp only
        rw [Stop.close_vars]
        exact hwalk
  exact ⟨List.forall_mem_cons.2 ⟨.refl _ _, hthrough.1⟩,
    List.pairwise_cons.2 ⟨fun vars hvars => (hthrough.1 vars hvars).kept, hthrough.2⟩⟩

theorem getLast?_stores :
    (script.stores c setup input world).getLast? =
      some (script.stop c setup input world).ctx.vars := by
  rw [stores, storesThrough, ← List.cons_append, List.getLast?_concat]

end

/-- At every moment of a run, under a name that is no target, in any case, there is what the run
started with, spelling and value, or nothing if it started with nothing there. All names that are
held are names that it started with or targets. And a name that is held at some moment is held at
all later ones. What the run shows is what is held last, however it ends. -/
theorem run_binds_targets_only (script : Script) (c : Collaborators σ) (setup : RunSetup)
    (input : Fields) (world : σ) :
    let initial := Variables.ofFields (script.vars.getD [])
    let stores := script.stores c setup input world
    (∀ vars ∈ stores, ∀ s : String × Json,
      Text.lowercase s.1 ∉ script.targets.map Text.lowercase →
        (s ∈ vars.snapshot ↔ s ∈ initial.snapshot)) ∧
    (∀ vars ∈ stores, ∀ s ∈ vars.snapshot, Text.lowercase s.1 ∈
      ((script.vars.getD []).map Prod.fst ++ script.targets).map Text.lowercase) ∧
    (stores.Pairwise fun earlier later =>
      ∀ name, earlier.contains name = true → later.contains name = true) ∧
    stores.head? = some initial ∧
    ∃ last, stores.getLast? = some last ∧
      (script.run c setup input world).1.vars = last.snapshot := by
  intro initial stores
  obtain ⟨hrebinds, hkept⟩ := script.stores_rebind c setup input world
  refine ⟨?_, ?_, hkept, rfl, _, script.getLast?_stores c setup input world, rfl⟩
  · intro vars hvars s hs
    rw [Variables.mem_snapshot_iff_binding?, (hrebinds vars hvars).untouched hs,
      ← Variables.mem_snapshot_iff_binding?]
  · intro vars hvars s hs
    rw [List.map_append, List.mem_append, List.map_map]
    have hheld : vars.contains s.1 = true := by
      rw [Variables.contains_eq, Variables.mem_snapshot_iff_binding?.1 hs]
      rfl
    refine ((hrebinds vars hvars).held_before hheld).imp_left ?_
    exact Variables.mem_of_contains_ofFields

/-- A branch binds one of the first names under another spelling, and then a call fails. -/
def recounting : Script :=
  { vars := some [("Count", .bool true), ("Keep", .null)],
    steps := [.branch "$vars.count" [.extract [("COUNT", "$vars.keep")]] [],
      .tool { recipient := "c.d", channel := "commentary", saveAs := "out" }] }

/-- The failed run shows the one name as it was and the other as it was bound last; a run that
others stop in front of the branch shows both as they were. -/
theorem run_recounting :
    let stores := recounting.stores oneTool {} [] 0
    let shown := (recounting.run oneTool {} [] 0).1.vars
    (Text.lowercase "Keep" ∉ recounting.targets.map Text.lowercase ∧
      ∀ vars ∈ stores, ("Keep", .null) ∈ vars.snapshot) ∧
    (("COUNT", .null) ∈ shown ∧
      Text.lowercase "COUNT" ∈ (["Count", "Keep"] ++ recounting.targets).map Text.lowercase) ∧
    (∀ later ∈ stores, later.contains "count" = true) ∧
    (recounting.run hurried {} [] 0).1.vars = [("Count", .bool true), ("Keep", .null)] ∧
    ∀ vars ∈ recounting.stores hurried {} [] 0, ("Keep", .null) ∈ vars.snapshot := by
  intro stores shown
  obtain ⟨hsame, hnames, (hkept : stores.Pairwise _), (hfirst : stores.head? = _), last, hlast,
    hshown⟩ := run_binds_targets_only recounting oneTool {} [] 0
  have hkeep : Text.lowercase "Keep" ∉ recounting.targets.map Text.lowercase := by decide +kernel
  have hinitial : ("Keep", Json.null) ∈
      (Variables.ofFields (recounting.vars.getD [])).snapshot := by decide +kernel
  have hcount : ("COUNT", Json.null) ∈ shown := by decide +kernel
  have hheld : (Variables.ofFields (recounting.vars.getD [])).contains "count" = true := by
    decide +kernel
  refine ⟨⟨hkeep, ?_⟩, ⟨hcount, ?_⟩, ?_, by decide +kernel, ?_⟩
  · intro vars hvars
    exact (hsame vars hvars ("Keep", .null) hkeep).2 hinitial
  · have hmem : ("COUNT", Json.null) ∈ last.snapshot := hshown ▸ hcount
    exact hnames last (List.mem_of_getLast? hlast) ("COUNT", .null) hmem
  · intro later hlater
    obtain ⟨rest, hstores⟩ := List.head?_eq_some_iff.1 hfirst
    rw [hstores] at hkept hlater
    rcases List.mem_cons.1 hlater with rfl | hrest
    · exact hheld
    · exact (List.pairwise_cons.1 hkept).1 later hrest "count" hheld
  · intro vars hvars
    exact ((run_binds_targets_only recounting hurried {} [] 0).1 vars hvars ("Keep", .null)
      hkeep).2 hinitial

end Script

end Dialogue
