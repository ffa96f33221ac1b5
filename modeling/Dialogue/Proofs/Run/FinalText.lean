import Dialogue.Proofs.Except
import Dialogue.Proofs.Run.Effect
import Dialogue.Proofs.Text.Blank

/-!
# Where the text of a run comes from

A text on the final channel leaves what it says as the text to end with, or the reply of the chat
model if it says nothing. Each one replaces the text before, so a walk ends with what its last one
left. Two tests decide in turn: a text has to say something, a reply only has to show something. A
text that says something shows something, so a run is closed with a summary only where there was no
text on the final channel at all, or the last reply was blank.
-/
namespace Dialogue

variable {σ : Type} {c : Collaborators σ}

theorem showsNothing_of_isMaterial {text : String} (h : isMaterial text = true) :
    Text.showsNothing text = false := by
  rw [isMaterial, Bool.and_eq_true, Bool.not_eq_true', List.isEmpty_eq_false_iff] at h
  refine Bool.eq_false_iff.2 fun hblank => h.1 ?_
  rw [Text.trim_eq_nil_iff]
  exact List.all_eq_true.1 hblank

namespace Visit

def finalText? (v : Visit σ) : Option String :=
  match v.step with
  | .say u => if u.speechChannel? = some .final then some (u.text v.ctx) else none
  | _ => none

/-- The text to end with that the step leaves: its own, or the reply if that says nothing. -/
def left? (c : Collaborators σ) (v : Visit σ) : Option String :=
  v.finalText?.bind fun text =>
    if isMaterial text then some text else (c.complete v.ctx.log v.world).1.toOption

theorem calls_of_not_material {v : Visit σ} {text : String} (h : v.finalText? = some text)
    (ht : isMaterial text = false) : v.calls c = [.complete v.ctx.log] := by
  obtain ⟨s, ctx, world⟩ := v
  rw [finalText?] at h
  split at h
  · rename_i u hu
    dsimp only at hu h
    subst hu
    split at h
    · rename_i hchannel
      cases h
      rw [calls, Step.calls, Utterance.calls, Utterance.asks, hchannel, ht]
      rfl
    · cases h
  · cases h

theorem left?_of_material {v : Visit σ} {text : String} (h : v.finalText? = some text)
    (ht : isMaterial text = true) : v.left? c = some text := by
  rw [left?, h, Option.bind_some, if_pos ht]

theorem left?_of_not_material {v : Visit σ} {text : String} (h : v.finalText? = some text)
    (ht : isMaterial text = false) :
    v.left? c = (c.complete v.ctx.log v.world).1.toOption := by
  rw [left?, h, Option.bind_some, if_neg (by simp [ht])]

theorem left?_of_none {v : Visit σ} (h : v.finalText? = none) : v.left? c = none := by
  rw [left?, h, Option.bind_none]

theorem said_or_replied_of_left? {v : Visit σ} {text : String} (h : v.left? c = some text) :
    (v.finalText? = some text ∧ isMaterial text = true) ∨
      (v.calls c = [.complete v.ctx.log] ∧ (c.complete v.ctx.log v.world).1 = .ok text) := by
  obtain ⟨said, hsaid, -⟩ := Option.bind_eq_some_iff.1 h
  cases hm : isMaterial said with
  | true =>
      rw [left?_of_material hsaid hm] at h
      cases h
      exact .inl ⟨hsaid, hm⟩
  | false =>
      rw [left?_of_not_material hsaid hm] at h
      exact .inr ⟨calls_of_not_material hsaid hm, toOption_eq_some_iff.1 h⟩

/-- What the last text on the final channel leaves is the last that is left. -/
theorem getLast?_left? {before after : List (Visit σ)} {v : Visit σ} {text : String}
    (hv : v.left? c = some text) (hafter : ∀ w ∈ after, w.finalText? = none) :
    ((before ++ v :: after).filterMap (left? c)).getLast? = some text := by
  have hnone : after.filterMap (left? c) = [] :=
    List.filterMap_eq_nil_iff.2 fun w hw => left?_of_none (hafter w hw)
  rw [List.filterMap_append, List.filterMap_cons_some hv, hnone, List.getLast?_concat]

end Visit

theorem Step.Does.finalText {s : Step} {ctx after : Context} {world world' : σ}
    (h : s.Does c ctx world after world') :
    let v : Visit σ := ⟨s, ctx, world⟩
    (v.finalText? = none ∧ after.finalText = ctx.finalText) ∨
      (v.finalText?.isSome ∧ v.left? c = some after.finalText) := by
  intro v
  have hother {u : Utterance} (hu : u.speechChannel? ≠ some .final) :
      (⟨.say u, ctx, world⟩ : Visit σ).finalText? = none := if_neg hu
  have hfinal {u : Utterance} (hu : u.speechChannel? = some .final) :
      (⟨.say u, ctx, world⟩ : Visit σ).finalText? = some (u.text ctx) := if_pos hu
  cases h with
  | bound output => exact .inl ⟨rfl, by rw [ctx.extract_eq]⟩
  | called _ _ _ => exact .inl ⟨rfl, rfl⟩
  | said hu ht =>
      exact .inr ⟨by rw [hfinal hu]; rfl, Visit.left?_of_material (hfinal hu) ht⟩
  | replied hu ht hr =>
      refine .inr ⟨by rw [hfinal hu]; rfl, ?_⟩
      rw [Visit.left?_of_not_material (hfinal hu) ht, hr]
      rfl
  | thought hu _ => exact .inl ⟨hother hu, rfl⟩
  | silent hu _ => exact .inl ⟨hother hu, rfl⟩

theorem Next.finalText {here next : Machine σ} {s : Step} (h : Next c here s next) :
    ((here.visit s).finalText? = none ∧ next.ctx.finalText = here.ctx.finalText) ∨
      ((here.visit s).finalText?.isSome ∧ (here.visit s).left? c = some next.ctx.finalText) := by
  rcases h.does_or_enters with hdoes | ⟨_, _, _, rfl, hctx⟩
  · exact hdoes.finalText
  · exact .inl ⟨rfl, by rw [hctx]⟩

/-- A walk that comes to its end has the text that was left last, or the one it began with; and each
text on the final channel has left one. -/
theorem Machine.finalText_of_walk (m : Machine σ) (h : (m.walk c).error = none) :
    (m.walk c).ctx.finalText =
        ((m.visits c).filterMap (Visit.left? c)).getLast?.getD m.ctx.finalText ∧
      ∀ v ∈ m.visits c, v.finalText?.isSome → (v.left? c).isSome := by
  revert h
  refine m.walk_induction (c := c) (P := fun here visits stop => stop.error = none →
    stop.ctx.finalText = (visits.filterMap (Visit.left? c)).getLast?.getD here.ctx.finalText ∧
      ∀ v ∈ visits, v.finalText?.isSome → (v.left? c).isSome) ?_ ?_ ?_
  · intro here begun stop h herror
    cases h with
    | cancelled _ => cases herror
    | failed _ _ => cases herror
    | finished _ => exact ⟨rfl, List.forall_mem_nil _⟩
    | halted _ h =>
        obtain ⟨rfl, rfl, -⟩ := Step.eq_halt_of_dispatch h
        exact ⟨rfl, List.forall_mem_singleton.2 nofun⟩
  · intro here after visits stop h ih herror
    rw [← h.same.2]
    exact ih herror
  · intro here s next visits stop h ih herror
    obtain ⟨htext, hleft⟩ := ih herror
    rcases h.finalText with ⟨hnone, hsame⟩ | ⟨-, hsome⟩
    · rw [List.filterMap_cons_none (Visit.left?_of_none hnone), ← hsame]
      refine ⟨htext, List.forall_mem_cons.2 ⟨fun hs => ?_, hleft⟩⟩
      rw [hnone] at hs
      cases hs
    · rw [List.filterMap_cons_some hsome, List.getLast?_cons, Option.getD_some]
      exact ⟨htext, List.forall_mem_cons.2 ⟨fun _ => by rw [hsome]; rfl, hleft⟩⟩

namespace Script

def walked (script : Script) (c : Collaborators σ) (setup : RunSetup) (input : Fields)
    (world : σ) : Stop σ :=
  (script.machine setup input world).walk c

/-- Behind all that its visits ask for the run asks for one thing more, a reply to the conversation
with the prompt behind it, and this reply is the text. -/
structure ClosedBy (script : Script) (c : Collaborators σ) (setup : RunSetup) (input : Fields)
    (world : σ) (text : String) : Prop where
  calls : script.calls c setup input world =
    (script.visits c setup input world).flatMap (Visit.calls c) ++
      [.complete ((script.walked c setup input world).ctx.log ++ [.user setup.summarizePrompt])]
  reply : (c.complete ((script.walked c setup input world).ctx.log ++
    [.user setup.summarizePrompt]) (script.walked c setup input world).world).1 = .ok text

section
variable (script : Script) (c : Collaborators σ) (setup : RunSetup) (input : Fields) (world : σ)

theorem validate_of_succeeded (h : (script.run c setup input world).1.error = none) :
    script.validate = .ok () := by
  cases hv : script.validate with
  | error reason =>
      rw [run, Script.stop, hv] at h
      cases h
  | ok _ => rfl

/-- A run that succeeds has come to the end of its walk; it keeps the text that it has there if that
shows anything, and is closed with a summary otherwise. -/
theorem ends_of_succeeded (h : (script.run c setup input world).1.error = none) :
    let walked := script.walked c setup input world
    let text := (script.run c setup input world).1.finalText
    walked.error = none ∧
      ((Text.showsNothing walked.ctx.finalText = false ∧ text = walked.ctx.finalText ∧
        script.calls c setup input world =
          (script.visits c setup input world).flatMap (Visit.calls c)) ∨
      (Text.showsNothing walked.ctx.finalText = true ∧
        script.ClosedBy c setup input world text)) := by
  intro walked text
  have hv := script.validate_of_succeeded c setup input world h
  have hcalls : script.calls c setup input world =
      (script.visits c setup input world).flatMap (Visit.calls c) ++
        walked.closingCalls setup.summarizePrompt := script.calls_eq c setup input world hv
  have hstop : script.stop c setup input world = walked.close c setup.summarizePrompt := by
    rw [Script.stop, hv]
    rfl
  have herror : (walked.close c setup.summarizePrompt).error = none := by
    rw [run, hstop] at h
    exact Option.map_eq_none_iff.1 h
  have htext : text = (walked.close c setup.summarizePrompt).ctx.finalText := by
    rw [← hstop]
    rfl
  cases hlacks : walked.lacksText with
  | false =>
      rw [Stop.close_of_text hlacks] at herror htext
      rw [Stop.closingCalls, hlacks, if_neg Bool.false_ne_true, List.append_nil] at hcalls
      rw [Stop.lacksText, herror] at hlacks
      exact ⟨herror, .inl ⟨hlacks, htext, hcalls⟩⟩
  | true =>
      rw [Stop.close_of_lacksText hlacks] at herror htext
      rw [Stop.closingCalls, hlacks, if_pos rfl] at hcalls
      rw [Stop.lacksText, Bool.and_eq_true, Option.isNone_iff_eq_none] at hlacks
      refine ⟨hlacks.1, .inr ⟨hlacks.2, hcalls, ?_⟩⟩
      show (c.complete (walked.ctx.log ++ [.user setup.summarizePrompt]) walked.world).1 = .ok text
      split at herror
      · cases herror
      · rename_i hr
        rw [hr] at htext ⊢
        rw [htext]

theorem finalText_of_succeeded (h : (script.run c setup input world).1.error = none) :
    (script.walked c setup input world).ctx.finalText =
        ((script.visits c setup input world).filterMap (Visit.left? c)).getLast?.getD "" ∧
      ∀ v ∈ script.visits c setup input world, v.finalText?.isSome → (v.left? c).isSome := by
  rw [script.visits_of_ok c setup input world (script.validate_of_succeeded c setup input world h)]
  exact Machine.finalText_of_walk _ (script.ends_of_succeeded c setup input world h).1

theorem text_of_walked (h : (script.run c setup input world).1.error = none) {left : String}
    (hleft : (script.walked c setup input world).ctx.finalText = left) :
    let text := (script.run c setup input world).1.finalText
    (Text.showsNothing left = false → text = left ∧ script.calls c setup input world =
        (script.visits c setup input world).flatMap (Visit.calls c)) ∧
      (Text.showsNothing left = true → script.ClosedBy c setup input world text) := by
  obtain ⟨-, hends⟩ := script.ends_of_succeeded c setup input world h
  rw [hleft] at hends
  refine ⟨fun hs => ?_, fun hs => ?_⟩
  · rcases hends with ⟨-, htext, hcalls⟩ | ⟨hblank, -⟩
    · exact ⟨htext, hcalls⟩
    · rw [hs] at hblank
      cases hblank
  · rcases hends with ⟨hno, -, -⟩ | ⟨-, hclosed⟩
    · rw [hs] at hno
      cases hno
    · exact hclosed

/-- The text of a run that succeeds is one that a step has, a reply that a step asks for, or the
reply to the prompt. -/
theorem text_is_said_or_replied (h : (script.run c setup input world).1.error = none) :
    let visits := script.visits c setup input world
    let text := (script.run c setup input world).1.finalText
    (∃ v ∈ visits, v.finalText? = some text ∧ isMaterial text = true) ∨
      (∃ v ∈ visits, v.calls c = [.complete v.ctx.log] ∧
        (c.complete v.ctx.log v.world).1 = .ok text) ∨
      script.ClosedBy c setup input world text := by
  intro visits text
  have hlast := (script.finalText_of_succeeded c setup input world h).1
  cases hl : (visits.filterMap (Visit.left? c)).getLast? with
  | none =>
      rw [hl] at hlast
      exact .inr (.inr ((script.text_of_walked c setup input world h hlast).2 rfl))
  | some left =>
      rw [hl] at hlast
      obtain ⟨v, hv, hleft⟩ := List.mem_filterMap.1 (List.mem_of_getLast? hl)
      cases hs : Text.showsNothing left with
      | true => exact .inr (.inr ((script.text_of_walked c setup input world h hlast).2 hs))
      | false =>
          obtain ⟨htext, -⟩ := (script.text_of_walked c setup input world h hlast).1 hs
          have hv' : v.left? c = some text := hleft.trans (congrArg some htext.symm)
          rcases Visit.said_or_replied_of_left? hv' with hsaid | hreplied
          · exact .inl ⟨v, hv, hsaid⟩
          · exact .inr (.inl ⟨v, hv, hreplied⟩)

end

/-- Where the last text on the final channel says something, a run that succeeds ends with it and
asks for no summary. Where it says nothing, its step asks for one reply, and the run ends with that
unless it is blank. Where it is blank, or there was no text on the final channel, the run is closed
with one summary, also behind a halt. So the text is one that says something, or a reply as it was
given, and it is blank only if the reply to the prompt is. -/
theorem run_text_provenance (script : Script) (c : Collaborators σ) (setup : RunSetup)
    (input : Fields) (world : σ) (h : (script.run c setup input world).1.error = none) :
    let visits := script.visits c setup input world
    let calls := script.calls c setup input world
    let text := (script.run c setup input world).1.finalText
    (∀ before v after said, visits = before ++ v :: after → v.finalText? = some said →
      (∀ w ∈ after, w.finalText? = none) →
        (isMaterial said = true → text = said ∧ calls = visits.flatMap (Visit.calls c)) ∧
        (isMaterial said = false → v.calls c = [.complete v.ctx.log] ∧
          ∃ reply, (c.complete v.ctx.log v.world).1 = .ok reply ∧
            (Text.showsNothing reply = false →
              text = reply ∧ calls = visits.flatMap (Visit.calls c)) ∧
            (Text.showsNothing reply = true → script.ClosedBy c setup input world text))) ∧
    ((∀ v ∈ visits, v.finalText? = none) → script.ClosedBy c setup input world text) ∧
    ((∃ v ∈ visits, v.finalText? = some text ∧ isMaterial text = true) ∨
      (∃ v ∈ visits, v.calls c = [.complete v.ctx.log] ∧
        (c.complete v.ctx.log v.world).1 = .ok text) ∨
      script.ClosedBy c setup input world text) ∧
    (Text.showsNothing text = true → script.ClosedBy c setup input world text) := by
  intro visits calls text
  obtain ⟨hlast, hleft⟩ := script.finalText_of_succeeded c setup input world h
  refine ⟨?_, ?_, script.text_is_said_or_replied c setup input world h, ?_⟩
  · intro before v after said hvisits hsaid hafter
    have hwalked {left : String} (hl : v.left? c = some left) :
        (script.walked c setup input world).ctx.finalText = left := by
      rw [hlast, show script.visits c setup input world = _ from hvisits,
        Visit.getLast?_left? hl hafter]
      rfl
    refine ⟨fun hm => ?_, fun hm => ?_⟩
    · have hend := hwalked (Visit.left?_of_material hsaid hm)
      exact (script.text_of_walked c setup input world h hend).1 (showsNothing_of_isMaterial hm)
    · have hmem : v ∈ visits := by
        rw [hvisits]
        exact List.mem_append_right _ List.mem_cons_self
      obtain ⟨reply, hreply⟩ := Option.isSome_iff_exists.1 (hleft v hmem (by rw [hsaid]; rfl))
      have hok : (c.complete v.ctx.log v.world).1 = .ok reply := by
        rw [Visit.left?_of_not_material hsaid hm] at hreply
        exact toOption_eq_some_iff.1 hreply
      exact ⟨Visit.calls_of_not_material hsaid hm, reply, hok,
        script.text_of_walked c setup input world h (hwalked hreply)⟩
  · intro hnone
    have hempty : (script.visits c setup input world).filterMap (Visit.left? c) = [] :=
      List.filterMap_eq_nil_iff.2 fun v hv => Visit.left?_of_none (hnone v hv)
    rw [hempty] at hlast
    exact (script.text_of_walked c setup input world h hlast).2 rfl
  · intro hs
    obtain ⟨-, ⟨hno, htext, -⟩ | ⟨-, hclosed⟩⟩ := script.ends_of_succeeded c setup input world h
    · rw [← htext] at hno
      rw [show Text.showsNothing _ = true from hs] at hno
      cases hno
    · exact hclosed

/-- A world of replies that are given one after the other, without tools. -/
def replying : Collaborators (List String) where
  complete _ replies :=
    match replies with
    | [] => (.error "no more replies", [])
    | reply :: rest => (.ok reply, rest)
  resolve _ _ replies := (none, replies)
  cancelled _ := false

/-- A text that says something, and then one that does not, in front of a halt. -/
def trailingOff : Script :=
  { steps := [.say { channel := "final", content := some "first" },
      .branch "$vars.x" [] [.say { channel := "final", content := some "." }, .halt],
      .say { channel := "final", content := some "never" }] }

/-- The reply to the second text is blank, so the run ends with the reply to the prompt. -/
theorem run_trailingOff :
    let setup : RunSetup := { summarizePrompt := "sum up" }
    let visits := trailingOff.visits replying setup [] [" ", "in short"]
    (trailingOff.run replying setup [] [" ", "in short"]).1 = ⟨"in short", [], none⟩ ∧
    (∃ before v after, visits = before ++ v :: after ∧ v.finalText? = some "." ∧
      (∀ w ∈ after, w.finalText? = none) ∧ v.calls replying = [.complete []] ∧
      (replying.complete [] v.world).1 = .ok " ") ∧
    trailingOff.ClosedBy replying setup [] [" ", "in short"] "in short" ∧
    trailingOff.calls replying setup [] [" ", "in short"] =
      [.complete [], .complete [.user "sum up"]] := by
  intro setup visits
  have hrun : (trailingOff.run replying setup [] [" ", "in short"]).1 = ⟨"in short", [], none⟩ := by
    decide +kernel
  have hlast := (run_text_provenance trailingOff replying setup [] [" ", "in short"]
    (by rw [hrun])).1
  -- The text in question is the third visit.
  obtain ⟨v, hv⟩ : ∃ v, visits[2]? = some v := Option.isSome_iff_exists.1 (by decide +kernel)
  obtain ⟨hlt, hget⟩ := List.getElem?_eq_some_iff.1 hv
  have hsplit : visits = visits.take 2 ++ v :: visits.drop 3 := by
    rw [← hget, List.getElem_cons_drop, List.take_append_drop]
  have hsaid : v.finalText? = some "." := by
    have h : visits[2]?.bind Visit.finalText? = some "." := by decide +kernel
    rwa [hv] at h
  have hafter : ∀ w ∈ visits.drop 3, w.finalText? = none := by
    have h : (visits.drop 3).all (fun w => w.finalText?.isNone) = true := by decide +kernel
    exact fun w hw => Option.isNone_iff_eq_none.1 (List.all_eq_true.1 h w hw)
  have hlog : v.ctx.log = [] ∧ v.world = [" ", "in short"] := by
    have h : visits[2]?.map (fun v => (v.ctx.log, v.world)) = some ([], [" ", "in short"]) := by
      decide +kernel
    rw [hv] at h
    exact Prod.mk.inj (Option.some.inj h)
  obtain ⟨hcalls, reply, hreply, -, hblank⟩ :=
    (hlast _ v _ _ hsplit hsaid hafter).2 (by decide +kernel)
  rw [hlog.1] at hcalls hreply
  have hspace : (replying.complete [] v.world).1 = .ok " " := by rw [hlog.2]; rfl
  rw [hspace] at hreply
  cases hreply
  have hclosed := hblank (by decide +kernel)
  rw [hrun] at hclosed
  exact ⟨hrun, ⟨_, v, _, hsplit, hsaid, hafter, hcalls, hspace⟩, hclosed, by decide +kernel⟩

end Script

end Dialogue
