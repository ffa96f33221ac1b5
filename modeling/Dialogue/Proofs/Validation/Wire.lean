import Dialogue.Load
import Dialogue.Proofs.Schema.Envelope
import Dialogue.Proofs.Validation.Report
import Dialogue.Proofs.Wire.RoundTrip

/-!
# Validity of running text

An envelope that is written as running text and loaded again is the same envelope, but every turn
of the assistant has an ending: where none was given the text has `<|end|>`, and only the endings of
other messages are dropped as framing. Nothing else is asked anew of it, so it is valid again just
if the assistant speaks at most once.
-/
namespace Dialogue

namespace Wire

theorem parse_render_of_each {ms : List Message}
    (h : ∀ m ∈ ms, parse (render [m]) = .ok [m.settled]) :
    parse (render ms) = .ok (ms.map Message.settled) := by
  have hs : ∀ m ∈ ms, m.content.Sorted := fun m hm =>
    sorted_of_parse (h m hm) m.settled List.mem_cons_self
  refine (parse_render_eq_ok_iff hs).2 fun m hm => ?_
  have hm' : ∀ n ∈ [m], n.content.Sorted := List.forall_mem_singleton.2 (hs m hm)
  exact (parse_render_eq_ok_iff hm').1 (h m hm) m List.mem_cons_self

end Wire

/-- What is written is not taken for JSON: it begins with a token. -/
theorem InputFormat.ofText_render (ms : List Message) :
    InputFormat.ofText (Wire.render ms) = .wire := by
  have hhead : (Text.trimStart (Wire.render ms).toList).head? ≠ some '{' := by
    rw [Wire.render, String.toList_ofList]
    cases ms with
    | nil => exact (Option.some_ne_none '{').symm
    | cons m ms =>
        obtain ⟨cs, hcs⟩ : ∃ cs, (m :: ms).flatMap Wire.messageChars = '<' :: cs := ⟨_, rfl⟩
        have hblank : Text.isBlank '<' = false := by decide
        rw [hcs, Text.trimStart, List.dropWhile_cons_of_neg (by simp [hblank])]
        exact fun h => absurd (Option.some.inj h) (by decide)
  rw [InputFormat.ofText, if_neg hhead]

namespace Envelope

/-- The envelope in which every turn of the assistant has an ending. -/
def settled (e : Envelope) : Envelope :=
  ⟨e.version, e.messages.map fun m => if m.isAssistant then m.settled else m⟩

def turns (e : Envelope) : Nat := (e.messages.filter Message.isAssistant).length

variable {checks : StructureChecks} {options : ValidationOptions} {e : Envelope} {m : Message}

theorem termination_eq_none (h : m.Proper checks) (hm : ¬ m.isAssistant = true) :
    m.termination = none := by
  by_contra hne
  exact hm (beq_iff_eq.2 (h.termination hne))

theorem unframed_settled (h : ¬ m.isAssistant = true → m.termination = none) :
    unframed m.settled = if m.isAssistant then m.settled else m := by
  have hrole : m.settled.isAssistant = m.isAssistant := rfl
  rw [unframed, hrole]
  split
  · rfl
  · rename_i hm
    have hnone := h hm
    obtain ⟨role, channel, recipient, contentType, content, termination⟩ := m
    cases hnone
    rfl

theorem load_render (he : ∀ m ∈ e.messages, m.Proper checks)
    (h : ∀ m ∈ e.messages, Wire.parse (Wire.render [m]) = .ok [m.settled]) :
    load (Wire.render e.messages) e.version = .ok e.settled := by
  rw [load, InputFormat.ofText_render]
  dsimp only
  rw [Wire.parse_render_of_each h]
  dsimp only
  rw [ofConversation, List.map_map, settled]
  congr 2
  refine List.map_congr_left fun m hm => ?_
  exact unframed_settled (termination_eq_none (he m hm))

theorem proper_settled (h : m.Proper checks) :
    (if m.isAssistant then m.settled else m).Proper checks := by
  split
  · rename_i hm
    have hscript (hs : m.contentType = some "harmony-script") : m.settled.HoldsScript checks :=
      ⟨(h.script hs).isObject, (h.script hs).allowed, (h.script hs).readable⟩
    exact ⟨h.role, fun _ => beq_iff_eq.1 hm, h.text, h.known, hscript, h.channel⟩
  · exact h

theorem terminations_settled (he : ∀ m ∈ e.messages, m.Proper checks) :
    (e.settled.messages.filter fun m => m.termination.isSome).length = e.turns := by
  rw [settled, List.filter_map, List.length_map, turns]
  congr 1
  refine List.filter_congr fun m hm => ?_
  show (if m.isAssistant then m.settled else m).termination.isSome = m.isAssistant
  split
  · rename_i hassistant
    exact hassistant.symm
  · rename_i hother
    rw [termination_eq_none (he m hm) hother, Bool.eq_false_iff.2 hother]
    rfl

/-- What the rules ask of the settled envelope is asked of the envelope too, but for the number of
endings. -/
theorem valid_settled_iff (he : e.Valid checks options)
    (hallowed : checks.envelope e.settled.toJson = none) :
    e.settled.Valid checks options ↔ (options.warningsFail = true → e.turns ≤ 1) := by
  rw [← terminations_settled he.each]
  refine ⟨Valid.terminations, fun h => ⟨hallowed, he.version, ?_, ?_, h⟩⟩
  · exact fun hnil => he.messages (List.map_eq_nil_iff.1 hnil)
  · exact List.forall_mem_map.2 fun m hm => proper_settled (he.each m hm)

/-- A valid envelope whose messages come back one by one, each with an ending, is loaded from its
running text as the envelope in which every turn of the assistant has an ending. By default that one
is valid just if the assistant speaks at most once. -/
theorem load_render_of_valid (e : Envelope) (hv : e.failure? .bundled {} = none)
    (hs : ∀ m ∈ e.messages, Wire.parse (Wire.render [m]) = .ok [m.settled]) :
    load (Wire.render e.messages) e.version = .ok e.settled ∧
      (e.settled.failure? .bundled {} = none ↔ e.turns ≤ 1) := by
  have he := failure?_eq_none_iff.1 hv
  refine ⟨load_render he.each hs, ?_⟩
  rw [failure?_eq_none_iff, valid_settled_iff he (Schema.Bundled.bundled_envelope_toJson e.settled)]
  simp

/-- A question, and as many answers of which none says how it ended. -/
def answered (answers : List String) : Envelope :=
  ⟨"1.0", { role := "user", content := .str "ask" } :: answers.map fun text =>
    { role := "assistant", channel := some .final, content := .str text }⟩

theorem answered_valid (answers : List String) : (answered answers).Valid .bundled {} := by
  have hcases : ∀ m ∈ (answered answers).messages,
      m = { role := "user", content := .str "ask" } ∨
        ∃ text, m = { role := "assistant", channel := some .final, content := .str text } := by
    refine List.forall_mem_cons.2 ⟨.inl rfl, List.forall_mem_map.2 ?_⟩
    exact fun text _ => .inr ⟨text, rfl⟩
  have hversion : Text.showsNothing "1.0" = false := by decide
  have hrole : Text.showsNothing "assistant" = false := by decide
  refine ⟨Schema.Bundled.bundled_envelope_toJson _, hversion, List.cons_ne_nil _ _, ?_, ?_⟩
  · intro m hm
    rcases hcases m hm with rfl | ⟨text, rfl⟩
    · exact ⟨by decide, nofun, fun _ => ⟨_, rfl⟩, nofun, nofun, nofun⟩
    · exact ⟨hrole, nofun, fun _ => ⟨_, rfl⟩, nofun, nofun, fun _ => nofun⟩
  · intro _
    have hnone : ((answered answers).messages.filter fun m => m.termination.isSome) = [] := by
      rw [List.filter_eq_nil_iff]
      intro m hm
      rcases hcases m hm with rfl | ⟨text, rfl⟩ <;> exact Bool.false_ne_true
    rw [hnone]
    exact Nat.zero_le 1

/-- One answer is loaded again with an ending, and the envelope is valid. -/
theorem load_render_answered_once :
    (answered ["a"]).failure? .bundled {} = none ∧
      (∀ m ∈ (answered ["a"]).messages, Wire.parse (Wire.render [m]) = .ok [m.settled]) ∧
      load (Wire.render (answered ["a"]).messages) "1.0" = .ok (answered ["a"]).settled ∧
      (answered ["a"]).settled.failure? .bundled {} = none := by
  have hv := failure?_eq_none_iff.2 (answered_valid ["a"])
  have hs : ∀ m ∈ (answered ["a"]).messages, Wire.parse (Wire.render [m]) = .ok [m.settled] := by
    simp only [← toOption_eq_some_iff]
    decide +kernel
  obtain ⟨hload, hvalid⟩ := load_render_of_valid (answered ["a"]) hv hs
  exact ⟨hv, hs, hload, hvalid.2 (by decide)⟩

/-- With two answers the envelope that is loaded has two endings and is not valid. -/
theorem load_render_answered_twice :
    (answered ["a", "b"]).failure? .bundled {} = none ∧
      (∀ m ∈ (answered ["a", "b"]).messages, Wire.parse (Wire.render [m]) = .ok [m.settled]) ∧
      load (Wire.render (answered ["a", "b"]).messages) "1.0" = .ok (answered ["a", "b"]).settled ∧
      (answered ["a", "b"]).settled.failure? .bundled {} ≠ none := by
  have he := answered_valid ["a", "b"]
  have hs : ∀ m ∈ (answered ["a", "b"]).messages,
      Wire.parse (Wire.render [m]) = .ok [m.settled] := by
    simp only [← toOption_eq_some_iff]
    decide +kernel
  refine ⟨failure?_eq_none_iff.2 he, hs, load_render he.each hs, ?_⟩
  rw [Ne, failure?_eq_none_iff,
    valid_settled_iff he (Schema.Bundled.bundled_envelope_toJson (answered ["a", "b"]).settled)]
  decide

end Envelope
end Dialogue
