import Dialogue.Proofs.Envelope
import Dialogue.Proofs.Json.Order
import Dialogue.Proofs.Schema.Bundled
import Dialogue.Validation.Verdict

/-!
# The schema of envelopes

The bundled schema allows just the objects that hold the parts of an envelope, which are the objects
that are read as one; and so it allows what any envelope is written as. A version may be blank,
messages may be missing, and so may be all of a message but its role and its content.
-/
namespace Dialogue.Schema.Bundled

open Entries (get? Ascending)

variable {unmet : List String} {j : Json} {fields : Fields}

theorem forall_mem_known_iff {α : Type} {name : α → String} {known : List (String × α)}
    (hname : ∀ e ∈ known, e.1 = name e.2) (hknown : ∀ a, (name a, a) ∈ known)
    {text : Option String} :
    (∀ t ∈ text, t ∈ known.map (·.1)) ↔ ∃ a : Option α, text = a.map name := by
  constructor
  · intro h
    cases text with
    | none => exact ⟨none, rfl⟩
    | some t =>
        obtain ⟨e, he, rfl⟩ := List.mem_map.1 (h t rfl)
        exact ⟨some e.2, congrArg some (hname e he)⟩
  · rintro ⟨a, rfl⟩ t ht
    obtain ⟨a, -, rfl⟩ := Option.map_eq_some_iff.1 ht
    exact List.mem_map.2 ⟨_, hknown a, rfl⟩

theorem forall_named_iff {α : Type} {name : α → String} {known : List (String × α)}
    (hname : ∀ e ∈ known, e.1 = name e.2) (hknown : ∀ a, (name a, a) ∈ known) (key : String) :
    (∀ value, get? key fields = some value →
        faultsAt targets (Entries.keys targets) (nameOrNull (known.map (·.1))) value = []) ↔
      ∃ a : Option α, (get? key fields).getD .null = Message.ofOption (a.map name) := by
  refine Iff.trans ?_ (Entries.forall_get?_iff
    (fun value => ∃ a : Option α, value = Message.ofOption (a.map name)) ⟨none, rfl⟩)
  refine forall₂_congr fun value _ => ?_
  rw [faultsAt_nameOrNull_eq_nil_iff]
  constructor
  · rintro ⟨text, htext, rfl⟩
    obtain ⟨a, rfl⟩ := (forall_mem_known_iff hname hknown).1 htext
    exact ⟨a, rfl⟩
  · rintro ⟨a, rfl⟩
    exact ⟨_, (forall_mem_known_iff hname hknown).2 ⟨a, rfl⟩, rfl⟩

theorem faultsAt_message_eq_nil_iff (h : Ascending fields) :
    faultsAt targets unmet message (.obj fields) = [] ↔ ∃ m : Message, m.HeldBy fields := by
  have hchannel : (∀ value, get? "channel" fields = some value →
      faultsAt targets (Entries.keys targets) (nameOrNull ["analysis", "commentary", "final"])
        value = []) ↔
      ∃ channel : Option Channel,
        (get? "channel" fields).getD .null = Message.ofOption (channel.map Channel.name) :=
    forall_named_iff (by decide : ∀ e ∈ Channel.known, e.1 = e.2.name)
      (fun c => by cases c <;> decide) "channel"
  have htermination : (∀ value, get? "termination" fields = some value →
      faultsAt targets (Entries.keys targets) (nameOrNull ["end", "call", "return"]) value = []) ↔
      ∃ termination : Option Termination, (get? "termination" fields).getD .null =
        Message.ofOption (termination.map Termination.name) :=
    forall_named_iff (by decide : ∀ e ∈ Termination.known, e.1 = e.2.name)
      (fun t => by cases t <;> decide) "termination"
  have hparts : faultsAt targets unmet message (.obj fields) = [] ↔
      (∃ channel : Option Channel,
        (get? "channel" fields).getD .null = Message.ofOption (channel.map Channel.name)) ∧
      (∃ content, get? "content" fields = some content) ∧
      (∃ text, (get? "contentType" fields).getD .null = Message.ofOption text) ∧
      (∃ text, (get? "recipient" fields).getD .null = Message.ofOption text) ∧
      (∃ role, get? "role" fields = some (.str role)) ∧
      ∃ termination : Option Termination, (get? "termination" fields).getD .null =
        Message.ofOption (termination.map Termination.name) := by
    have hcontent : ∀ value, faultsAt targets (Entries.keys targets) .anything value = [] := by
      intro value
      rw [faultsAt]
    rw [message, faultsAt_record_eq_nil_iff h (by decide) (by decide), ← hchannel,
      ← htermination, ← forall_text_iff, ← forall_text_iff]
    simp [Entries.exists_get?_iff, hcontent]
  rw [hparts]
  constructor
  · rintro ⟨⟨channel, hc⟩, ⟨content, hn⟩, ⟨type, ht⟩, ⟨recipient, hr⟩, ⟨role, hl⟩, termination, he⟩
    exact ⟨⟨role, channel, recipient, type, content, termination⟩, hl, hn, hc, hr, ht, he⟩
  · rintro ⟨m, hl, hn, hc, hr, ht, he⟩
    exact ⟨⟨_, hc⟩, ⟨_, hn⟩, ⟨_, ht⟩, ⟨_, hr⟩, ⟨_, hl⟩, _, he⟩

theorem faultsAt_of_standsIn {m : Message} (h : m.StandsIn j) :
    faultsAt targets unmet message j = [] := by
  obtain ⟨fields, rfl, hf, hm⟩ := h
  exact (faultsAt_message_eq_nil_iff hf).2 ⟨m, hm⟩

theorem exists_standsIn (hs : j.Sorted) (h : faultsAt targets unmet message j = []) :
    ∃ m : Message, m.StandsIn j := by
  obtain ⟨fields, rfl⟩ := exists_fields_of_faultsAt (by simp) h
  obtain ⟨m, hm⟩ := (faultsAt_message_eq_nil_iff hs.1).1 h
  exact ⟨m, fields, rfl, hs.1, hm⟩

theorem faultsAt_of_forall_standsIn {ms : List Message} {items : List Json}
    (h : List.Forall₂ Message.StandsIn ms items) :
    ∀ k ∈ items, faultsAt targets unmet message k = [] := by
  induction h with
  | nil => exact List.forall_mem_nil _
  | cons hm _ ih => exact List.forall_mem_cons.2 ⟨faultsAt_of_standsIn hm, ih⟩

theorem exists_forall_standsIn {items : List Json} (hs : ∀ k ∈ items, k.Sorted)
    (h : ∀ k ∈ items, faultsAt targets unmet message k = []) :
    ∃ ms, List.Forall₂ Message.StandsIn ms items := by
  induction items with
  | nil => exact ⟨[], .nil⟩
  | cons k items ih =>
      obtain ⟨hk, hitems⟩ := List.forall_mem_cons.1 h
      obtain ⟨hks, hrest⟩ := List.forall_mem_cons.1 hs
      obtain ⟨m, hm⟩ := exists_standsIn hks hk
      obtain ⟨ms, hms⟩ := ih hrest hitems
      exact ⟨m :: ms, .cons hm hms⟩

theorem faultsAt_envelope_eq_nil_iff (h : Ascending fields) :
    faultsAt targets unmet envelope (.obj fields) = [] ↔
      (∃ version, get? "HRFVersion" fields = some (.str version)) ∧
        ∃ items, get? "messages" fields = some (.arr items) ∧ ∀ k ∈ items,
          faultsAt targets ((Entries.keys targets).erase "#/$defs/Message") message k = [] := by
  rw [envelope, faultsAt_record_eq_nil_iff h (by decide) (by decide)]
  simp [Entries.exists_get?_iff, faultsAt_listOf_eq_nil_iff "Message" (s := message) rfl]

theorem faultsAt_of_heldBy {e : Envelope} (h : Ascending fields) (he : e.HeldBy fields) :
    faultsAt targets unmet envelope (.obj fields) = [] := by
  obtain ⟨hversion, items, hitems, hms⟩ := he
  exact (faultsAt_envelope_eq_nil_iff h).2
    ⟨⟨_, hversion⟩, items, hitems, faultsAt_of_forall_standsIn hms⟩

theorem exists_heldBy (hs : (Json.obj fields).Sorted)
    (h : faultsAt targets unmet envelope (.obj fields) = []) :
    ∃ e : Envelope, e.HeldBy fields := by
  obtain ⟨⟨version, hversion⟩, items, hitems, hall⟩ := (faultsAt_envelope_eq_nil_iff hs.1).1 h
  have hitem : ∀ k ∈ items, k.Sorted :=
    Json.sortedItems_iff.1 (Json.sortedFields_iff.1 hs.2 _ (Entries.mem_of_get? hitems))
  obtain ⟨ms, hms⟩ := exists_forall_standsIn hitem hall
  exact ⟨⟨version, ms⟩, hversion, items, hitems, hms⟩

theorem bundled_envelope_eq_none_iff {j : Json} :
    StructureChecks.bundled.envelope j = none ↔
      faultsAt targets (Entries.keys targets) envelope j = [] :=
  ClosedSchema.failure?_eq_none_iff

/-- The check of envelopes passes what any envelope is written as. -/
theorem bundled_envelope_toJson (e : Envelope) :
    StructureChecks.bundled.envelope e.toJson = none := by
  have hkeys : ["HRFVersion", "messages"].Pairwise (· < ·) := by decide
  have hms : List.Forall₂ Message.StandsIn e.messages (e.messages.map Message.toJson) := by
    rw [List.forall₂_map_right_iff, List.forall₂_same]
    exact fun m _ => m.standsIn_toJson
  rw [bundled_envelope_eq_none_iff]
  exact faultsAt_of_heldBy (Entries.ascending_of_keys hkeys) ⟨rfl, _, rfl, hms⟩

/-- With the bundled schema no envelope is refused by the schema; and a value that the schema does
not refuse is read as an envelope, which is written as the value restricted to what an envelope
knows, null where a message lacks a part. -/
theorem bundled_envelope_agrees_with_ofJson :
    (∀ (e : Envelope) (options : ValidationOptions),
      StructureChecks.bundled.envelope e.toJson = none ∧
        ∀ failure, e.failure? .bundled options = some failure →
          failure.code ≠ .schemaEnvelope) ∧
    ∀ j : Json, j.Sorted → StructureChecks.bundled.envelope j = none →
      ∃ e, Envelope.ofJson j = .ok e ∧ e.toJson = Envelope.restrict j := by
  constructor
  · intro e options
    refine ⟨bundled_envelope_toJson e, fun failure hfailure => ?_⟩
    rw [Envelope.failure?, bundled_envelope_toJson] at hfailure
    dsimp only at hfailure
    split at hfailure
    · cases hfailure
      exact nofun
    · cases hfailure
  · intro j hs hj
    rw [bundled_envelope_eq_none_iff] at hj
    obtain ⟨fields, rfl⟩ := exists_fields_of_faultsAt (by simp) hj
    obtain ⟨e, he⟩ := exists_heldBy hs hj
    exact ⟨e, Envelope.ofJson_of_heldBy hs.1 he, (Envelope.restrict_of_heldBy he).symm⟩

/-- As little of a message as the schema allows, a channel, and a field that no message knows. -/
def looseMessage : Fields :=
  [("channel", .str "final"), ("content", .null), ("note", .bool true), ("role", .str "")]

def looseEnvelope : Json :=
  .obj [("HRFVersion", .str ""), ("messages", .arr [.obj looseMessage]), ("note", .null)]

/-- The loose envelope is read and written back in full; the empty envelope is not valid, but the
schema does not refuse it. -/
theorem ofJson_looseEnvelope :
    (∃ e, Envelope.ofJson looseEnvelope = .ok e ∧ e.toJson = .obj
      [("HRFVersion", .str ""),
        ("messages", .arr [.obj
          [("channel", .str "final"), ("content", .null), ("contentType", .null),
            ("recipient", .null), ("role", .str ""), ("termination", .null)]])]) ∧
      ∃ failure, Envelope.failure? .bundled {} {} = some failure ∧
        failure.code ≠ .schemaEnvelope := by
  have hkeys : ["HRFVersion", "messages", "note"].Pairwise (· < ·) := by decide
  have hmessage : Ascending looseMessage := Entries.ascending_of_keys (by decide)
  have hs : looseEnvelope.Sorted :=
    ⟨Entries.ascending_of_keys hkeys, trivial,
      ⟨⟨hmessage, trivial, trivial, trivial, trivial, trivial⟩, trivial⟩, trivial, trivial⟩
  have hj : StructureChecks.bundled.envelope looseEnvelope = none := by
    rw [bundled_envelope_eq_none_iff]
    let m : Message := { channel := some .final }
    exact faultsAt_of_heldBy (e := ⟨"", [m]⟩) (Entries.ascending_of_keys hkeys)
      ⟨rfl, _, rfl, .cons ⟨_, rfl, hmessage, ⟨rfl, rfl, rfl, rfl, rfl, rfl⟩⟩ .nil⟩
  have hsome : (Envelope.failure? .bundled {} {}).isSome = true := by
    rw [Envelope.failure?, bundled_envelope_toJson]
    decide
  obtain ⟨hwritten, hread⟩ := bundled_envelope_agrees_with_ofJson
  obtain ⟨e, hofJson, htoJson⟩ := hread looseEnvelope hs hj
  obtain ⟨failure, hfailure⟩ := Option.isSome_iff_exists.1 hsome
  refine ⟨⟨e, hofJson, htoJson.trans ?_⟩, failure, hfailure, (hwritten {} {}).2 failure hfailure⟩
  decide

end Dialogue.Schema.Bundled
