import Dialogue.Proofs.Validation.Wire

/-!
# What loading from running text guarantees

Of a message that is loaded from running text much is known before it is validated: its role shows
something, its content is text if it declares no type, a declared type has no blanks around it, and
the message says how it ended just if it is a turn of the assistant. What the bundled schema and the
rules about roles and endings ask is therefore met by every envelope loaded from running text, and
the rule about content types is broken by declared types other than `json` alone.
-/
namespace Dialogue

/-- What is known of a message that was loaded from running text. -/
structure Message.Guaranteed (m : Message) : Prop where
  role : Text.showsNothing m.role = false
  termination : m.termination ≠ none ↔ m.role = "assistant"
  text : m.contentType = none → ∃ s, m.content = .str s
  contentType : ∀ type ∈ m.contentType, Text.trimmed type = type

namespace Message
variable {checks : StructureChecks} {m : Message} {problem : Problem}

theorem HeadFramed.role_shows (h : m.HeadFramed) : Text.showsNothing m.role = false := by
  have hne : m.role.toList ≠ [] := fun hnil => h.role_ne (String.toList_eq_nil_iff.1 hnil)
  rw [← h.role_trimmed, Ne, Text.trim_eq_nil_iff, ← List.all_eq_true] at hne
  exact Bool.eq_false_iff.2 hne

/-- A guaranteed message has no problem with its role or its ending; a problem with its content
comes from a declared type other than `json`. -/
theorem Guaranteed.rule_of_has (hm : m.Guaranteed) (h : m.Has checks problem) :
    problem.rule = .assistantChannel ∨ problem.rule = .contentType ∧
      problem ≠ .contentNotText ∧ ∃ type, m.contentType = some type ∧ type ≠ "json" := by
  have hscript : "harmony-script" ≠ "json" := by decide
  cases h with
  | role hr => exact absurd (hr.symm.trans hm.role) (by decide)
  | termination ht hr => exact absurd (hm.termination.1 ht) hr
  | text ht hc =>
      obtain ⟨s, hs⟩ := hm.text ht
      exact absurd hs (hc s)
  | unknown ht hj _ => exact .inr ⟨rfl, Problem.noConfusion, _, ht, hj⟩
  | notObject ht _ => exact .inr ⟨rfl, Problem.noConfusion, _, ht, hscript⟩
  | refused ht _ _ => exact .inr ⟨rfl, Problem.noConfusion, _, ht, hscript⟩
  | unreadable ht _ _ _ => exact .inr ⟨rfl, Problem.noConfusion, _, ht, hscript⟩
  | channel _ _ => exact .inl rfl

end Message

theorem Wire.guaranteed_of_standsFor {f : Frame} {m : Message} (hw : f.WellFormed)
    (hs : f.StandsFor m) : (Envelope.unframed m).Guaranteed := by
  have hhead : m.HeadFramed := headFramed_of_standsFor hw hs
  have htext : m.contentType = none → ∃ s, m.content = .str s := by
    intro ht
    have hb := hs.body
    rw [Frame.BodyWrites, Message.isStructured, ht] at hb
    exact ⟨_, hb⟩
  have htype : ∀ type ∈ m.contentType, Text.trimmed type = type := by
    intro type ht
    rw [Text.trimmed, (hhead.contentType type ht).1, String.ofList_toList]
  unfold Envelope.unframed
  split
  · rename_i hm
    have hended : m.termination ≠ none := by
      obtain ⟨ending, hending⟩ := hs.closer.exists_eq_some
      rw [hending]
      exact Option.some_ne_none ending
    exact ⟨hhead.role_shows, ⟨fun _ => beq_iff_eq.1 hm, fun _ => hended⟩, htext, htype⟩
  · rename_i hm
    have hother : m.role ≠ "assistant" := fun hr => hm (beq_iff_eq.2 hr)
    exact ⟨hhead.role_shows, ⟨fun h => absurd rfl h, fun hr => absurd hr hother⟩, htext, htype⟩

namespace Envelope
variable {e : Envelope} {text version : String}

theorem guaranteed_of_load (hformat : InputFormat.ofText text = .wire)
    (h : load text version = .ok e) : ∀ m ∈ e.messages, m.Guaranteed := by
  rw [load, hformat] at h
  dsimp only at h
  split at h
  · rename_i ms hparse
    cases h
    obtain ⟨s, hw, hs, _⟩ := Wire.parse_eq_ok_iff.1 hparse
    intro m hm
    obtain ⟨n, hn, rfl⟩ := List.mem_map.1 hm
    obtain ⟨f, hf, hn⟩ := Wire.exists_frame hw hs n hn
    exact Wire.guaranteed_of_standsFor hf hn
  · cases h

/-- What guaranteed messages leave to be found: problems of the envelope as a whole, missing
channels, and declared types. -/
theorem violation_of_guaranteed {checks : StructureChecks} (hms : ∀ m ∈ e.messages, m.Guaranteed)
    {v : Violation} (h : e.Violated checks v) :
    v.rule ∈ [.envelopeShape, .assistantChannel, .singleTermination] ∨
      v.rule = .contentType ∧ v.problem ≠ .contentNotText ∧
        ∃ i m type, v.index = some i ∧ e.messages[i]? = some m ∧ m.contentType = some type ∧
          Text.trimmed type = type ∧ type ≠ "json" := by
  cases h with
  | version _ => exact .inl (by simp [Violation.rule, Problem.rule])
  | messages _ => exact .inl (by simp [Violation.rule, Problem.rule])
  | terminations _ => exact .inl (by simp [Violation.rule, Problem.rule])
  | @message i m problem hi hhas =>
      have hm := hms m (List.mem_of_getElem? hi)
      rcases hm.rule_of_has hhas with hc | ⟨hc, hne, type, ht, hj⟩
      · exact .inl (by simp [Violation.rule, hc])
      · exact .inr ⟨hc, hne, i, m, type, rfl, hi, ht, hm.contentType type ht, hj⟩

/-- Whatever the options and the version, an envelope that is loaded from running text passes the
bundled schema, so that what fails is told by its violations. None of them is about the role of a
message, about who may say how a turn ended, or about content that is not text where no type is
declared; where one is about content, a type is declared that is not `json` when it is trimmed.
Every turn of the assistant says how it ended. -/
theorem guarantees_of_load_wire (hformat : InputFormat.ofText text = .wire)
    (h : load text version = .ok e) :
    StructureChecks.bundled.envelope e.toJson = none ∧
      (∀ options failure, e.failure? .bundled options = some failure →
        failure = failureOf (e.violations .bundled)) ∧
      (∀ checks, ∀ v ∈ e.violations checks,
        v.rule ≠ .messageRole ∧ v.rule ≠ .terminationRole ∧ v.problem ≠ .contentNotText ∧
          (v.rule = .contentType → ∃ i m type, v.index = some i ∧ e.messages[i]? = some m ∧
            m.contentType = some type ∧ Text.trimmed type = type ∧ type ≠ "json")) ∧
      ∀ m ∈ e.messages, m.role = "assistant" → m.termination ≠ none := by
  have hms := guaranteed_of_load hformat h
  have hallowed := Schema.Bundled.bundled_envelope_toJson e
  refine ⟨hallowed, ?_, ?_, fun m hm => (hms m hm).termination.2⟩
  · intro options failure hfailure
    rw [failure?, hallowed] at hfailure
    dsimp only at hfailure
    split at hfailure
    · exact (Option.some.inj hfailure).symm
    · cases hfailure
  · intro checks v hv
    rcases violation_of_guaranteed hms (mem_violations.1 hv) with hrule | ⟨hrule, hne, hdeclared⟩
    · have hproblem : v.problem = .contentNotText → v.rule = .contentType :=
        congrArg Problem.rule
      have hother : ∀ rule, rule ∉ [Rule.envelopeShape, .assistantChannel, .singleTermination] →
          v.rule ≠ rule := fun _ hn hr => hn (hr ▸ hrule)
      have hcontent : v.rule ≠ .contentType := hother _ (by decide)
      exact ⟨hother _ (by decide), hother _ (by decide), fun hp => hcontent (hproblem hp),
        fun hr => absurd hr hcontent⟩
    · rw [hrule]
      exact ⟨by decide, by decide, hne, fun _ => hdeclared⟩

/-- Blanks around a role and around a declared type, and text that is passed over. -/
def declared : String :=
  "<|start|> assistant <|constrain|> text <|message|>yes<|return|> and " ++
    "<|start|>user<|message|>hi<|end|>"

/-- The envelope that it is loaded as, where only the assistant's turn keeps its ending. -/
def declaredEnvelope : Envelope where
  version := "1.0"
  messages :=
    [{ role := "assistant", contentType := some "text", content := .str "yes",
       termination := some .returned },
      .plain "user" "hi"]

/-- It breaks the rule about content types, by a type that is declared and not known. -/
theorem guarantees_of_load_declared :
    InputFormat.ofText declared = .wire ∧ load declared "1.0" = .ok declaredEnvelope ∧
      StructureChecks.bundled.envelope declaredEnvelope.toJson = none ∧
      (∀ v ∈ declaredEnvelope.violations .bundled,
        v.rule ≠ .messageRole ∧ v.rule ≠ .terminationRole ∧ v.problem ≠ .contentNotText) ∧
      ⟨some 0, .unknownContentType "text"⟩ ∈ declaredEnvelope.violations .bundled := by
  have hformat : InputFormat.ofText declared = .wire := by decide +kernel
  have hload : load declared "1.0" = .ok declaredEnvelope := by
    rw [← toOption_eq_some_iff]
    decide +kernel
  obtain ⟨hallowed, _, hviolations, _⟩ := guarantees_of_load_wire hformat hload
  refine ⟨hformat, hload, hallowed, ?_, ?_⟩
  · intro v hv
    obtain ⟨hrole, hending, htext, _⟩ := hviolations .bundled v hv
    exact ⟨hrole, hending, htext⟩
  · rw [mem_violations]
    exact .message rfl (.unknown rfl (by decide) (by decide))

end Envelope
end Dialogue
