import Dialogue.Validation.Verdict
import Mathlib.Data.List.Nodup

/-!
# Verdicts and reports

`Envelope.Violated` says, without an order of checking, which violations there are: those of the
envelope as a whole, and the problems of each message at its place. A report is the one list that
holds exactly these, by rule and then by message, each once. Validation gives no failure exactly
when the envelope is valid in the sense of `Envelope.Valid`, and otherwise the failure that tells
the report; a refusal by the schema comes first and hides it.

What schemas allow is left to the checks, and which scripts can be read to `Script.ofJson`.
-/
namespace Dialogue

/-- A script is an object, allowed by the schema of scripts and readable. -/
structure Message.HoldsScript (checks : StructureChecks) (m : Message) : Prop where
  isObject : ∃ fields, m.content = .obj fields
  allowed : checks.script m.content = none
  readable : ∃ script, Script.ofJson m.content = .ok script

/-- What the rules ask of a message by itself. -/
structure Message.Proper (checks : StructureChecks) (m : Message) : Prop where
  role : Text.showsNothing m.role = false
  termination : m.termination ≠ none → m.role = "assistant"
  text : m.contentType = none → ∃ s, m.content = .str s
  known : ∀ t, m.contentType = some t → t = "json" ∨ t = "harmony-script"
  script : m.contentType = some "harmony-script" → m.HoldsScript checks
  channel : m.role = "assistant" → m.channel ≠ none

/-- What validation asks of an envelope. -/
structure Envelope.Valid (checks : StructureChecks) (options : ValidationOptions) (e : Envelope) :
    Prop where
  allowed : checks.envelope e.toJson = none
  version : Text.showsNothing e.version = false
  messages : e.messages ≠ []
  each : ∀ m ∈ e.messages, m.Proper checks
  terminations : options.warningsFail = true →
    (e.messages.filter fun m => m.termination.isSome).length ≤ 1

inductive Message.Has (checks : StructureChecks) (m : Message) : Problem → Prop
  | role (h : Text.showsNothing m.role = true) : Has checks m .roleMissing
  | termination (h : m.termination ≠ none) (hr : m.role ≠ "assistant") :
      Has checks m (.terminationByOther m.role)
  | text (h : m.contentType = none) (hc : ∀ s, m.content ≠ .str s) : Has checks m .contentNotText
  | unknown {t : String} (h : m.contentType = some t) (hj : t ≠ "json")
      (hs : t ≠ "harmony-script") : Has checks m (.unknownContentType t)
  | notObject (h : m.contentType = some "harmony-script") (hc : ∀ fields, m.content ≠ .obj fields) :
      Has checks m .scriptNotObject
  | refused {fields : Fields} {failure : Failure} (h : m.contentType = some "harmony-script")
      (hc : m.content = .obj fields) (hf : checks.script m.content = some failure) :
      Has checks m (.scriptRefused failure)
  | unreadable {fields : Fields} {mismatch : Json.Mismatch}
      (h : m.contentType = some "harmony-script") (hc : m.content = .obj fields)
      (ha : checks.script m.content = none) (hm : Script.ofJson m.content = .error mismatch) :
      Has checks m (.scriptUnreadable mismatch)
  | channel (h : m.role = "assistant") (hc : m.channel = none) : Has checks m .channelMissing

/-- The envelope has the violation. -/
inductive Envelope.Violated (checks : StructureChecks) (e : Envelope) : Violation → Prop
  | version (h : Text.showsNothing e.version = true) : Violated checks e ⟨none, .versionMissing⟩
  | messages (h : e.messages = []) : Violated checks e ⟨none, .messagesMissing⟩
  | message {i : Nat} {m : Message} {problem : Problem} (hi : e.messages[i]? = some m)
      (h : m.Has checks problem) : Violated checks e ⟨some i, problem⟩
  | terminations (h : 1 < (e.messages.filter fun m => m.termination.isSome).length) :
      Violated checks e
        ⟨none, .manyTerminations (e.messages.filter fun m => m.termination.isSome).length⟩

/-- Where a violation stands in a report: by its rule in the order of the rules, then by its
message; a missing version stands before missing messages. -/
def Violation.place (v : Violation) : List Nat :=
  [Rule.all.idxOf v.rule, v.index.getD 0, if v.problem = .messagesMissing then 1 else 0]

/-- The list holds the violations of the envelope and nothing else, in order and each once. -/
structure Envelope.IsReport (checks : StructureChecks) (e : Envelope) (report : List Violation) :
    Prop where
  complete : ∀ v, v ∈ report ↔ e.Violated checks v
  ordered : report.Pairwise fun v w => v.place < w.place

section
variable {checks : StructureChecks} {e : Envelope}

namespace Message
variable {m : Message} {problem : Problem}

theorem roleProblem?_eq_some_iff :
    m.roleProblem? = some problem ↔ m.Has checks problem ∧ problem.rule = .messageRole := by
  unfold roleProblem?
  constructor
  · intro h
    split at h
    · rename_i hr
      cases h
      exact ⟨.role hr, rfl⟩
    · cases h
  · rintro ⟨h, hrule⟩
    cases h <;> cases hrule
    rename_i hr
    rw [if_pos hr]

theorem terminationProblem?_eq_some_iff :
    m.terminationProblem? = some problem ↔
      m.Has checks problem ∧ problem.rule = .terminationRole := by
  unfold terminationProblem?
  constructor
  · intro h
    split at h
    · rename_i ht
      cases h
      simp only [Bool.and_eq_true, Bool.not_eq_true', isAssistant, beq_eq_false_iff_ne,
        Option.isSome_iff_ne_none] at ht
      exact ⟨.termination ht.1 ht.2, rfl⟩
    · cases h
  · rintro ⟨h, hrule⟩
    cases h <;> cases hrule
    rename_i ht hr
    rw [if_pos]
    simp [isAssistant, Option.isSome_iff_ne_none, ht, hr]

theorem channelProblem?_eq_some_iff :
    m.channelProblem? = some problem ↔
      m.Has checks problem ∧ problem.rule = .assistantChannel := by
  unfold channelProblem?
  constructor
  · intro h
    split at h
    · rename_i hc
      cases h
      simp only [Bool.and_eq_true, isAssistant, beq_iff_eq, Option.isNone_iff_eq_none] at hc
      exact ⟨.channel hc.1 hc.2, rfl⟩
    · cases h
  · rintro ⟨h, hrule⟩
    cases h <;> cases hrule
    rename_i hr hc
    rw [if_pos]
    simp [isAssistant, hr, hc]

theorem isString_iff {j : Json} : j.isString = true ↔ ∃ s, j = .str s := by
  cases j <;> simp [Json.isString]

theorem asFields?_isNone_iff {j : Json} :
    j.asFields?.isNone = true ↔ ∀ fields, j ≠ .obj fields := by
  cases j <;> simp [Json.asFields?]

theorem has_of_scriptProblem? (hm : m.contentType = some "harmony-script")
    (h : scriptProblem? checks m.content = some problem) :
    m.Has checks problem ∧ problem.rule = .contentType := by
  unfold scriptProblem? at h
  split at h
  · rename_i hc
    cases h
    exact ⟨.notObject hm (asFields?_isNone_iff.1 hc), rfl⟩
  · rename_i hc
    rw [asFields?_isNone_iff, not_forall_not] at hc
    obtain ⟨fields, hc⟩ := hc
    split at h
    · rename_i failure hf
      cases h
      exact ⟨.refused hm hc hf, rfl⟩
    · rename_i ha
      split at h
      · cases h
      · rename_i mismatch hr
        cases h
        exact ⟨.unreadable hm hc ha hr, rfl⟩

theorem contentProblem?_of_script (hm : m.contentType = some "harmony-script") :
    m.contentProblem? checks = scriptProblem? checks m.content := by
  unfold contentProblem?
  rw [hm]
  rfl

theorem contentProblem?_eq_some_iff :
    m.contentProblem? checks = some problem ↔
      m.Has checks problem ∧ problem.rule = .contentType := by
  constructor
  · intro h
    unfold contentProblem? at h
    split at h
    · rename_i ht
      split at h
      · cases h
      · rename_i hc
        rw [isString_iff, not_exists] at hc
        cases h
        exact ⟨.text ht hc, rfl⟩
    · rename_i t ht
      split at h
      · cases h
      · rename_i hj
        split at h
        · rename_i hs
          exact has_of_scriptProblem? (hs ▸ ht) h
        · rename_i hs
          cases h
          exact ⟨.unknown ht hj hs, rfl⟩
  · rintro ⟨h, hrule⟩
    cases h with
    | role _ => cases hrule
    | termination _ _ => cases hrule
    | channel _ _ => cases hrule
    | text ht hc =>
        have hs : ¬ m.content.isString = true := by simpa [isString_iff] using hc
        simp only [contentProblem?, ht, if_neg hs]
    | unknown ht hj hs => simp only [contentProblem?, ht, if_neg hj, if_neg hs]
    | notObject ht hc =>
        rw [contentProblem?_of_script ht, scriptProblem?, if_pos (asFields?_isNone_iff.2 hc)]
    | refused ht hc hf =>
        rw [hc] at hf
        rw [contentProblem?_of_script ht, scriptProblem?, hc, if_neg (by simp [Json.asFields?]), hf]
    | unreadable ht hc ha hr =>
        rw [hc] at ha hr
        rw [contentProblem?_of_script ht, scriptProblem?, hc, if_neg (by simp [Json.asFields?]), ha]
        simp only [hr]

theorem proper_iff : m.Proper checks ↔ ∀ problem, ¬ m.Has checks problem := by
  constructor
  · intro hp problem h
    cases h with
    | role hr => rw [hp.role] at hr; cases hr
    | termination ht hr => exact hr (hp.termination ht)
    | text ht hc =>
        obtain ⟨s, hs⟩ := hp.text ht
        exact hc s hs
    | unknown ht hj hs => exact (hp.known _ ht).elim hj hs
    | notObject ht hc =>
        obtain ⟨fields, hf⟩ := (hp.script ht).isObject
        exact hc fields hf
    | refused ht _ hf => rw [(hp.script ht).allowed] at hf; cases hf
    | unreadable ht _ _ hm =>
        obtain ⟨script, hs⟩ := (hp.script ht).readable
        rw [hs] at hm
        cases hm
    | channel hr hc => exact hp.channel hr hc
  · intro hnone
    refine ⟨?_, ?_, ?_, ?_, ?_, ?_⟩
    · rw [Bool.eq_false_iff]
      exact fun hr => hnone _ (.role hr)
    · intro ht
      by_contra hr
      exact hnone _ (.termination ht hr)
    · intro ht
      by_contra hc
      exact hnone _ (.text ht (not_exists.1 hc))
    · intro t ht
      by_contra hc
      rw [not_or] at hc
      exact hnone _ (.unknown ht hc.1 hc.2)
    · intro ht
      have hobj : ∃ fields, m.content = .obj fields := by
        by_contra hc
        exact hnone _ (.notObject ht (not_exists.1 hc))
      obtain ⟨fields, hc⟩ := hobj
      have hallowed : checks.script m.content = none := by
        cases hf : checks.script m.content with
        | none => rfl
        | some failure => exact absurd (.refused ht hc hf) (hnone _)
      refine ⟨⟨fields, hc⟩, hallowed, ?_⟩
      cases hr : Script.ofJson m.content with
      | ok script => exact ⟨script, rfl⟩
      | error mismatch => exact absurd (.unreadable ht hc hallowed hr) (hnone _)
    · intro hr hc
      exact hnone _ (.channel hr hc)

end Message

namespace Envelope

theorem mem_violationsBy {problem? : Message → Option Problem} {v : Violation} :
    v ∈ e.violationsBy problem? ↔
      ∃ i m, e.messages[i]? = some m ∧ v.index = some i ∧ problem? m = some v.problem := by
  simp only [violationsBy, List.mem_filterMap, Option.map_eq_some_iff, Prod.exists,
    List.mem_zipIdx_iff_getElem?]
  constructor
  · rintro ⟨m, i, hm, problem, hp, rfl⟩
    exact ⟨i, m, hm, rfl, hp⟩
  · rintro ⟨i, m, hm, hi, hp⟩
    obtain ⟨index, problem⟩ := v
    cases hi
    exact ⟨m, i, hm, problem, hp, rfl⟩

theorem mem_violationsBy_iff {problem? : Message → Option Problem} {rule : Rule}
    (hp : ∀ m problem, problem? m = some problem ↔ m.Has checks problem ∧ problem.rule = rule)
    (hshape : rule ≠ .envelopeShape) (hcount : rule ≠ .singleTermination) {v : Violation} :
    v ∈ e.violationsBy problem? ↔ e.Violated checks v ∧ v.rule = rule := by
  rw [mem_violationsBy]
  constructor
  · rintro ⟨i, m, hm, hi, h⟩
    obtain ⟨index, problem⟩ := v
    cases hi
    obtain ⟨hhas, hrule⟩ := (hp m problem).1 h
    exact ⟨.message hm hhas, hrule⟩
  · rintro ⟨h, hrule⟩
    cases h with
    | version _ => exact absurd hrule.symm hshape
    | messages _ => exact absurd hrule.symm hshape
    | terminations _ => exact absurd hrule.symm hcount
    | message hm hhas => exact ⟨_, _, hm, rfl, (hp _ _).2 ⟨hhas, hrule⟩⟩

theorem mem_shapeProblems {problem : Problem} :
    problem ∈ e.shapeProblems ↔
      (Text.showsNothing e.version = true ∧ problem = .versionMissing) ∨
        (e.messages = [] ∧ problem = .messagesMissing) := by
  unfold shapeProblems
  rw [List.mem_append]
  split <;> split <;> simp_all

end Envelope

theorem Rule.mem_violations {rule : Rule} {v : Violation} :
    v ∈ rule.violations checks e ↔ e.Violated checks v ∧ v.rule = rule := by
  cases rule with
  | envelopeShape =>
      simp only [violations, List.mem_map, Envelope.mem_shapeProblems]
      constructor
      · rintro ⟨problem, ⟨h, rfl⟩ | ⟨h, rfl⟩, rfl⟩
        · exact ⟨.version h, rfl⟩
        · exact ⟨.messages h, rfl⟩
      · rintro ⟨h, hrule⟩
        cases h with
        | version h => exact ⟨_, .inl ⟨h, rfl⟩, rfl⟩
        | messages h => exact ⟨_, .inr ⟨h, rfl⟩, rfl⟩
        | terminations _ => cases hrule
        | message _ h => cases h <;> cases hrule
  | messageRole =>
      exact Envelope.mem_violationsBy_iff (fun _ _ => Message.roleProblem?_eq_some_iff)
        (by decide) (by decide)
  | terminationRole =>
      exact Envelope.mem_violationsBy_iff (fun _ _ => Message.terminationProblem?_eq_some_iff)
        (by decide) (by decide)
  | contentType =>
      exact Envelope.mem_violationsBy_iff (fun _ _ => Message.contentProblem?_eq_some_iff)
        (by decide) (by decide)
  | assistantChannel =>
      exact Envelope.mem_violationsBy_iff (fun _ _ => Message.channelProblem?_eq_some_iff)
        (by decide) (by decide)
  | singleTermination =>
      simp only [violations, Envelope.terminations, List.countP_eq_length_filter]
      constructor
      · intro h
        split at h
        · rename_i hc
          rw [List.mem_singleton.1 h]
          exact ⟨.terminations hc, rfl⟩
        · cases h
      · rintro ⟨h, hrule⟩
        cases h with
        | version _ => cases hrule
        | messages _ => cases hrule
        | terminations hc => simp [hc]
        | message _ h => cases h <;> cases hrule

namespace Envelope

theorem mem_violations {v : Violation} : v ∈ e.violations checks ↔ e.Violated checks v := by
  have hall : ∀ rule : Rule, rule ∈ Rule.all := by
    intro rule
    cases rule <;> decide
  simp only [violations, List.mem_flatMap, Rule.mem_violations]
  constructor
  · rintro ⟨_, _, h, _⟩
    exact h
  · intro h
    exact ⟨v.rule, hall v.rule, h, rfl⟩

theorem zipIdx_pairwise (ms : List Message) :
    ms.zipIdx.Pairwise fun p q => p.2 < q.2 := by
  have h : (ms.zipIdx.map Prod.snd).Pairwise (· < ·) := by
    rw [List.zipIdx_map_snd]
    exact List.pairwise_lt_range'
  exact List.pairwise_map.1 h

/-- The violations of a rule about single messages stand in the order of the messages. -/
theorem violationsBy_pairwise {problem? : Message → Option Problem} {rule : Rule}
    (hrule : ∀ m problem, problem? m = some problem → problem.rule = rule) :
    (e.violationsBy problem?).Pairwise fun v w => v.place < w.place := by
  refine List.pairwise_filterMap.2 ((zipIdx_pairwise e.messages).imp ?_)
  rintro ⟨m, i⟩ ⟨n, j⟩ hij v hv w hw
  obtain ⟨p, hp, rfl⟩ := Option.map_eq_some_iff.1 hv
  obtain ⟨q, hq, rfl⟩ := Option.map_eq_some_iff.1 hw
  have hrules : p.rule = q.rule := (hrule m p hp).trans (hrule n q hq).symm
  simp only [Violation.place, Violation.rule, hrules, Option.getD_some]
  exact List.cons_lt_cons_iff.2 (.inr ⟨rfl, List.cons_lt_cons_iff.2 (.inl hij)⟩)

end Envelope

theorem Rule.violations_pairwise (rule : Rule) :
    (rule.violations checks e).Pairwise fun v w => v.place < w.place := by
  have hmessages {problem? : Message → Option Problem} {rule : Rule}
      (hp : ∀ m problem, problem? m = some problem ↔ m.Has checks problem ∧ problem.rule = rule) :
      (e.violationsBy problem?).Pairwise fun v w => v.place < w.place :=
    Envelope.violationsBy_pairwise fun m problem h => ((hp m problem).1 h).2
  cases rule with
  | envelopeShape =>
      have hlt : (⟨none, .versionMissing⟩ : Violation).place <
          (⟨none, .messagesMissing⟩ : Violation).place := by decide
      simp only [violations, Envelope.shapeProblems]
      split <;> split <;> simp [hlt]
  | messageRole => exact hmessages fun _ _ => Message.roleProblem?_eq_some_iff
  | terminationRole => exact hmessages fun _ _ => Message.terminationProblem?_eq_some_iff
  | contentType => exact hmessages fun _ _ => Message.contentProblem?_eq_some_iff
  | assistantChannel => exact hmessages fun _ _ => Message.channelProblem?_eq_some_iff
  | singleTermination =>
      simp only [violations]
      split
      · exact List.pairwise_singleton _ _
      · exact List.Pairwise.nil

theorem Rule.all_pairwise : Rule.all.Pairwise fun r s => Rule.all.idxOf r < Rule.all.idxOf s := by
  decide

namespace Envelope

theorem violations_pairwise :
    (e.violations checks).Pairwise fun v w => v.place < w.place := by
  refine List.pairwise_flatMap.2 ⟨fun rule _ => rule.violations_pairwise, ?_⟩
  refine Rule.all_pairwise.imp ?_
  intro r s hrs v hv w hw
  have hr := (Rule.mem_violations.1 hv).2
  have hs := (Rule.mem_violations.1 hw).2
  rw [Violation.place, Violation.place, hr, hs]
  exact List.cons_lt_cons_iff.2 (.inl hrs)

theorem violations_isReport : e.IsReport checks (e.violations checks) :=
  ⟨fun _ => mem_violations, violations_pairwise⟩

theorem IsReport.unique {xs ys : List Violation} (hx : e.IsReport checks xs)
    (hy : e.IsReport checks ys) : xs = ys := by
  have hirrefl (v : Violation) : ¬ v.place < v.place := List.lt_irrefl _
  have hnodup {zs : List Violation} (h : e.IsReport checks zs) : zs.Nodup := by
    refine h.ordered.imp ?_
    rintro v w hvw rfl
    exact hirrefl v hvw
  have hperm : xs.Perm ys := by
    rw [List.perm_ext_iff_of_nodup (hnodup hx) (hnodup hy)]
    intro v
    rw [hx.complete, hy.complete]
  refine hperm.eq_of_pairwise ?_ hx.ordered hy.ordered
  intro v w _ _ hvw hwv
  exact absurd (List.lt_trans hvw hwv) (hirrefl v)

theorem counts_iff {options : ValidationOptions} {v : Violation} :
    v.counts options = true ↔ (v.rule = .singleTermination → options.warningsFail = true) := by
  unfold Violation.counts Violation.severity
  cases v.rule <;> simp [Rule.severity]

/-- An envelope that its schema allows is valid exactly when no violation of it counts. -/
theorem valid_iff {options : ValidationOptions} :
    e.Valid checks options ↔ checks.envelope e.toJson = none ∧
      ∀ v, e.Violated checks v → ¬ v.counts options = true := by
  constructor
  · intro hv
    refine ⟨hv.allowed, ?_⟩
    intro v h hcounts
    cases h with
    | version h => rw [hv.version] at h; cases h
    | messages h => exact hv.messages h
    | message hi h => exact Message.proper_iff.1 (hv.each _ (List.mem_of_getElem? hi)) _ h
    | terminations h =>
        have hw := hv.terminations (counts_iff.1 hcounts rfl)
        omega
  · rintro ⟨hallowed, hnone⟩
    have hcount {v : Violation} (hr : v.rule ≠ .singleTermination) : ¬ e.Violated checks v :=
      fun h => hnone v h (counts_iff.2 fun hs => absurd hs hr)
    refine ⟨hallowed, ?_, ?_, ?_, ?_⟩
    · rw [Bool.eq_false_iff]
      exact fun h => hcount (by decide) (.version h)
    · exact fun h => hcount (by decide) (.messages h)
    · intro m hm
      obtain ⟨i, hi⟩ := List.mem_iff_getElem?.1 hm
      refine Message.proper_iff.2 ?_
      intro problem h
      refine hcount ?_ (.message hi h)
      cases h <;> exact nofun
    · intro hw
      by_contra hc
      exact hnone _ (.terminations (Nat.lt_of_not_le hc)) (counts_iff.2 fun _ => hw)

theorem failure?_of_refused {options : ValidationOptions} {failure : Failure}
    (h : checks.envelope e.toJson = some failure) :
    e.failure? checks options = some { failure with code := .schemaEnvelope } := by
  rw [failure?, h]

theorem failure?_of_allowed {options : ValidationOptions} (h : checks.envelope e.toJson = none) :
    e.failure? checks options =
      if (e.violations checks).any (Violation.counts options) then
        some (failureOf (e.violations checks))
      else none := by
  rw [failure?, h]

theorem failure?_eq_none_iff {options : ValidationOptions} :
    e.failure? checks options = none ↔ e.Valid checks options := by
  rw [valid_iff]
  cases h : checks.envelope e.toJson with
  | some failure => simp [failure?_of_refused h]
  | none => simp [failure?_of_allowed h, mem_violations]

/-- Validation gives no failure exactly for valid envelopes. What the schema refuses is told in the
words of the schema. Any other invalid envelope has one report, and each violation in it is one line
of the failure. -/
theorem failure?_tells_report (checks : StructureChecks) (options : ValidationOptions)
    (e : Envelope) :
    (e.failure? checks options = none ↔ e.Valid checks options) ∧
    (∀ failure, checks.envelope e.toJson = some failure →
      e.failure? checks options = some ⟨.schemaEnvelope, failure.message, failure.details⟩) ∧
    (∃ report, e.IsReport checks report) ∧
    ∀ report, e.IsReport checks report → checks.envelope e.toJson = none →
      ¬ e.Valid checks options →
        e.failure? checks options = some
          ⟨.semantic, "envelope failed semantic validation with " ++ toString report.length ++
            " violation(s)", .arr (report.map fun v => .str v.display)⟩ := by
  refine ⟨failure?_eq_none_iff, fun _ h => failure?_of_refused h, ⟨_, violations_isReport⟩, ?_⟩
  intro report hreport hallowed hinvalid
  rw [hreport.unique violations_isReport]
  rw [← failure?_eq_none_iff, failure?_of_allowed hallowed] at hinvalid
  rw [failure?_of_allowed hallowed]
  split
  · rw [failureOf, Failure.ofLines, Json.ofStrings, List.map_map]
    rfl
  · rename_i hany
    rw [if_neg hany] at hinvalid
    exact absurd rfl hinvalid

end Envelope

end

namespace Envelope

/-- A user's message that says how it ended, and an assistant's without a channel. -/
def unfinished : Envelope :=
  ⟨" ", [{ role := "user", termination := some .ended },
    { role := "assistant", content := .str "x", termination := some .ended }]⟩

theorem failure?_unfinished :
    let checks : StructureChecks := ⟨fun _ => none, fun _ => none⟩
    let refusing : StructureChecks := ⟨fun _ => some ⟨.format, "no", .null⟩, fun _ => none⟩
    ¬ unfinished.Valid checks ⟨false⟩ ∧
      unfinished.failure? checks ⟨false⟩ = some
        ⟨.semantic, "envelope failed semantic validation with 5 violation(s)",
          .ofStrings ["HRFVersion is required [envelope-shape]",
            "messages[0]: termination is only allowed on assistant messages (role 'user')" ++
              " [termination-role]",
            "messages[0]: content must be a string when no contentType is declared [content-type]",
            "messages[1]: assistant message must have channel analysis, commentary or final" ++
              " [assistant-channel]",
            "warning: 2 messages carry a termination marker; expected at most one" ++
              " [single-termination]"]⟩ ∧
      unfinished.failure? refusing ⟨false⟩ = some ⟨.schemaEnvelope, "no", .null⟩ := by
  intro checks refusing
  have hinvalid : ¬ unfinished.Valid checks ⟨false⟩ := by
    intro h
    exact absurd h.version (by decide)
  refine ⟨hinvalid, ?_, ?_⟩
  · rw [(failure?_tells_report checks ⟨false⟩ unfinished).2.2.2 _ violations_isReport rfl hinvalid]
    decide +kernel
  · exact (failure?_tells_report refusing ⟨false⟩ unfinished).2.1 _ rfl

end Envelope

end Dialogue
