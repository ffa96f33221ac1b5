import Dialogue.Envelope
import Dialogue.Proofs.Json.Record

/-!
# Envelopes as values

An object that holds the parts of a message is read as that message, whatever other fields it has,
and the message is written as the object restricted to the fields it knows. A field that is absent
counts as null, but for the role. The same is so of an envelope, whose two fields have to be there.

`HeldBy` says how the parts stand in an object, as a schema of single properties would.
-/
namespace Dialogue

open Entries (get? Ascending)
open Json (asOptional asChoice asText Fills)

/-- The object with the named fields alone, null where one is absent. -/
def Json.restrict (names : List String) : Json → Json
  | .obj fields => .obj (names.map fun key => (key, (get? key fields).getD .null))
  | j => j

def Json.mapItems (f : Json → Json) : Json → Json
  | .arr items => .arr (items.map f)
  | j => j

namespace Message

def fieldNames : List String :=
  ["channel", "content", "contentType", "recipient", "role", "termination"]

/-- The fields hold the parts of the message. -/
structure HeldBy (m : Message) (fields : Fields) : Prop where
  role : get? "role" fields = some (.str m.role)
  content : get? "content" fields = some m.content
  channel : (get? "channel" fields).getD .null = ofOption (m.channel.map Channel.name)
  recipient : (get? "recipient" fields).getD .null = ofOption m.recipient
  contentType : (get? "contentType" fields).getD .null = ofOption m.contentType
  termination : (get? "termination" fields).getD .null =
    ofOption (m.termination.map Termination.name)

variable {m : Message} {fields : Fields}

theorem asOptional_text (s : Option String) : asOptional asText (ofOption s) = .ok s := by
  cases s <;> rfl

theorem asOptional_choice {α : Type} {name : α → String} {known : List (String × α)}
    (h : ∀ a, known.lookup (name a) = some a) (a : Option α) :
    asOptional (asChoice known) (ofOption (a.map name)) = .ok a := by
  cases a with
  | none => rfl
  | some a =>
      show (Json.asNamed known (name a)).map some = _
      rw [Json.asNamed, h]
      rfl

theorem asOptional_channel (channel : Option Channel) :
    asOptional (asChoice Channel.known) (ofOption (channel.map Channel.name)) = .ok channel :=
  asOptional_choice (fun c => by cases c <;> rfl) channel

theorem asOptional_termination (termination : Option Termination) :
    asOptional (asChoice Termination.known) (ofOption (termination.map Termination.name)) =
      .ok termination :=
  asOptional_choice (fun t => by cases t <;> rfl) termination

/-- A part that is read from null where its field is absent. -/
theorem fill_of_getD {α : Type} {key : String} {j : Json} {a : Option α}
    {inner : Json → Except Json.Mismatch α} (hj : (get? key fields).getD .null = j)
    (ha : asOptional inner j = .ok a) :
    (∀ value, get? key fields = some value → asOptional inner value = .ok a) ∧
      (get? key fields = none → a = none) := by
  subst hj
  constructor
  · intro value hvalue
    rwa [hvalue] at ha
  · intro hnone
    rw [hnone] at ha
    exact (Except.ok.inj ha).symm

theorem fills_of_heldBy (h : m.HeldBy fields) :
    Fills (slots.map (·.toSlot)) fields fieldNames {} m := by
  obtain ⟨hchannel, hnoChannel⟩ := fill_of_getD h.channel (asOptional_channel m.channel)
  obtain ⟨htype, hnoType⟩ := fill_of_getD h.contentType (asOptional_text m.contentType)
  obtain ⟨hrecipient, hnoRecipient⟩ := fill_of_getD h.recipient (asOptional_text m.recipient)
  obtain ⟨htermination, hnoTermination⟩ :=
    fill_of_getD h.termination (asOptional_termination m.termination)
  have hcontent : ∀ value, get? "content" fields = some value →
      Json.Decoder.any.ofJson value = .ok m.content := by
    intro value hvalue
    rw [h.content] at hvalue
    exact congrArg Except.ok (Option.some.inj hvalue).symm
  have hrole : ∀ value, get? "role" fields = some value →
      Json.Decoder.text.ofJson value = .ok m.role := by
    intro value hvalue
    rw [h.role] at hvalue
    exact (Option.some.inj hvalue) ▸ rfl
  refine .ofDefault rfl hchannel ?_ (.ofDefault rfl hcontent ?_ (.ofDefault rfl htype ?_
    (.ofDefault rfl hrecipient ?_ (.ofDefault rfl hrole ?_
      (.ofDefault rfl htermination ?_ .nil)))))
  · intro hnone
    rw [hnoChannel hnone]
  · intro hnone
    rw [h.content] at hnone
    cases hnone
  · intro hnone
    rw [hnoType hnone]
  · intro hnone
    rw [hnoRecipient hnone]
  · intro hnone
    rw [h.role] at hnone
    cases hnone
  · intro hnone
    rw [hnoTermination hnone]

theorem ofJson_of_heldBy (hf : Ascending fields) (h : m.HeldBy fields) :
    ofJson (.obj fields) = .ok m := by
  let r : Json.Record Json Message := ⟨"Message", slots.map (·.toSlot), {}⟩
  have hread : r.ofEntries fields = .ok m :=
    Json.Record.ofEntries_of_fills (by decide) (by decide) (by decide) hf (fills_of_heldBy h)
  exact hread

theorem restrict_of_heldBy (h : m.HeldBy fields) :
    Json.restrict fieldNames (.obj fields) = m.toJson := by
  simp only [Json.restrict, fieldNames, toJson, List.map_cons, List.map_nil, h.role, h.content,
    h.channel, h.recipient, h.contentType, h.termination, Option.getD_some]

/-- The value is an object that holds the parts of the message. -/
def StandsIn (m : Message) (j : Json) : Prop :=
  ∃ fields, j = .obj fields ∧ Ascending fields ∧ m.HeldBy fields

theorem standsIn_toJson (m : Message) : m.StandsIn m.toJson := by
  have hkeys : fieldNames.Pairwise (· < ·) := by decide
  exact ⟨_, rfl, Entries.ascending_of_keys hkeys, ⟨rfl, rfl, rfl, rfl, rfl, rfl⟩⟩

end Message

namespace Envelope

/-- The object with its version and its messages alone, and of each message its fields. -/
def restrict : Json → Json
  | .obj fields =>
      .obj [("HRFVersion", (get? "HRFVersion" fields).getD .null),
        ("messages", ((get? "messages" fields).getD .null).mapItems
          (Json.restrict Message.fieldNames))]
  | j => j

/-- The fields hold the parts of the envelope. -/
structure HeldBy (e : Envelope) (fields : Fields) : Prop where
  version : get? "HRFVersion" fields = some (.str e.version)
  messages : ∃ items, get? "messages" fields = some (.arr items) ∧
    List.Forall₂ Message.StandsIn e.messages items

variable {e : Envelope} {fields : Fields}

theorem asList_of_standsIn {ms : List Message} {items : List Json}
    (h : List.Forall₂ Message.StandsIn ms items) :
    Json.asList Message.ofJson (.arr items) = .ok ms := by
  show items.mapM Message.ofJson = .ok ms
  induction h with
  | nil => rfl
  | cons hm _ ih =>
      obtain ⟨fields, rfl, hf, hheld⟩ := hm
      rw [List.mapM_cons, Message.ofJson_of_heldBy hf hheld, ih]
      rfl

theorem map_restrict_of_standsIn {ms : List Message} {items : List Json}
    (h : List.Forall₂ Message.StandsIn ms items) :
    items.map (Json.restrict Message.fieldNames) = ms.map Message.toJson := by
  induction h with
  | nil => rfl
  | cons hm _ ih =>
      obtain ⟨fields, rfl, -, hheld⟩ := hm
      rw [List.map_cons, List.map_cons, ih, Message.restrict_of_heldBy hheld]

theorem ofJson_of_heldBy (hf : Ascending fields) (h : e.HeldBy fields) :
    ofJson (.obj fields) = .ok e := by
  obtain ⟨items, hitems, hms⟩ := h.messages
  have hversion : ∀ value, get? "HRFVersion" fields = some value →
      Json.Decoder.text.ofJson value = .ok e.version := by
    intro value hvalue
    rw [h.version] at hvalue
    exact (Option.some.inj hvalue) ▸ rfl
  have hmessages : ∀ value, get? "messages" fields = some value →
      (Json.Decoder.listOf Message.decoder).ofJson value = .ok e.messages := by
    intro value hvalue
    rw [hitems] at hvalue
    exact (Option.some.inj hvalue) ▸ asList_of_standsIn hms
  let r : Json.Record Json Envelope := ⟨"Envelope", slots.map (·.toSlot), {}⟩
  have hfills : Fills r.slots fields ["HRFVersion", "messages"] r.start e := by
    refine .ofDefault rfl hversion ?_ (.ofDefault rfl hmessages ?_ .nil)
    · intro hnone
      rw [h.version] at hnone
      cases hnone
    · intro hnone
      rw [hitems] at hnone
      cases hnone
  have hread : r.ofEntries fields = .ok e :=
    Json.Record.ofEntries_of_fills (by decide) (by decide) (by decide) hf hfills
  exact hread

theorem restrict_of_heldBy (h : e.HeldBy fields) : restrict (.obj fields) = e.toJson := by
  obtain ⟨items, hitems, hms⟩ := h.messages
  simp only [restrict, toJson, h.version, hitems, Option.getD_some, Json.mapItems,
    map_restrict_of_standsIn hms]

end Envelope
end Dialogue
