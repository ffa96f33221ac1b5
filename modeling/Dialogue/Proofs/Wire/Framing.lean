import Dialogue.Proofs.Wire.Grammar
import Dialogue.Wire.Printer

/-!
# Messages as frames

Every message is written as a frame. Whether the frame is well formed and stands for the message
depends on what the fields of the message hold: `Message.HeadFramed` is the condition on role,
recipient and content type, which reading a message always gives.

A message that does not say how it ended is read back as one that has ended, and blanks around a
role are not read.
-/
namespace Dialogue

namespace Message

/-- The message with an ending. -/
def settled (m : Message) : Message := { m with termination := some (m.termination.getD .ended) }

def trimmed (m : Message) : Message := { m with role := Text.trimmed m.role }

def unended (m : Message) : Message := { m with termination := none }

theorem toList_role_trimmed (m : Message) : m.trimmed.role.toList = Text.trim m.role.toList :=
  String.toList_ofList

theorem trimmed_eq_self_iff {m : Message} :
    m.trimmed = m ↔ Text.trim m.role.toList = m.role.toList := by
  rw [← m.toList_role_trimmed, String.toList_inj]
  constructor
  · exact congrArg Message.role
  · intro h
    obtain ⟨role, channel, recipient, contentType, content, termination⟩ := m
    exact congrArg (fun r => Message.mk r channel recipient contentType content termination) h

open Wire in
/-- Role, recipient and content type can be told from each other when they are written. -/
structure HeadFramed (m : Message) : Prop where
  role_ne : m.role ≠ ""
  role_trimmed : Text.trim m.role.toList = m.role.toList
  role_lacks : Lacks Token.afterRole m.role.toList
  recipient : ∀ r ∈ m.recipient, r ≠ "" ∧ (∀ c ∈ r.toList, Text.isBlank c = false) ∧
    Lacks Token.afterChannel r.toList
  contentType : ∀ t ∈ m.contentType, Text.trim t.toList = t.toList ∧
    Lacks Token.afterConstrain t.toList

end Message

namespace Wire

def frameOf (m : Message) : Frame where
  role := m.role.toList
  header :=
    if m.channel.isSome || m.recipient.isSome then some (headerChars m.channel m.recipient)
    else none
  contentType := m.contentType.map String.toList
  body := contentChars m.content
  closer := terminator m.termination

theorem chars_frameOf (m : Message) : (frameOf m).chars = messageChars m := by
  have hheader : Token.channel.leading (frameOf m).header =
      if m.channel.isSome || m.recipient.isSome then
        Token.channel.chars ++ headerChars m.channel m.recipient
      else [] := by
    unfold frameOf
    dsimp only
    split <;> rfl
  have htype : Token.constrain.leading (frameOf m).contentType =
      m.contentType.elim [] fun type => Token.constrain.chars ++ type.toList := by
    unfold frameOf
    cases m.contentType <;> rfl
  rw [Frame.chars, Frame.inner, hheader, htype, messageChars]
  simp only [frameOf, List.append_assoc]

def splitOf (ms : List Message) : Split := ⟨ms.map fun m => ([], frameOf m), []⟩

theorem chars_splitOf (ms : List Message) : (splitOf ms).chars = ms.flatMap messageChars := by
  rw [splitOf, Split.chars, List.append_nil, List.flatMap_map]
  congr 1
  funext m
  exact chars_frameOf m

theorem toList_render (ms : List Message) : (render ms).toList = (splitOf ms).chars := by
  rw [render, String.toList_ofList, chars_splitOf]

def headerWords (channel : Option Channel) (recipient : Option String) : List (List Char) :=
  (channel.map fun c => c.name.toList).toList ++
    (recipient.map fun r => Header.recipientMark ++ r.toList).toList

theorem isBlank_name (channel : Channel) : ∀ c ∈ channel.name.toList, Text.isBlank c = false := by
  rw [Text.forall_not_blank_iff]
  cases channel <;> decide

theorem words_marked {recipient : String} (h : ∀ c ∈ recipient.toList, Text.isBlank c = false) :
    Text.words (Header.recipientMark ++ recipient.toList) =
      [Header.recipientMark ++ recipient.toList] := by
  have hmark : ∀ c ∈ Header.recipientMark, Text.isBlank c = false :=
    Text.forall_not_blank_iff.2 (by decide)
  apply Text.words_of_forall
  · exact List.append_ne_nil_of_left_ne_nil (by decide) _
  · intro c hc
    rcases List.mem_append.mp hc with hm | hr
    · exact hmark c hm
    · exact h c hr

theorem words_headerChars {channel : Option Channel} {recipient : Option String}
    (h : ∀ r ∈ recipient, ∀ c ∈ r.toList, Text.isBlank c = false) :
    Text.words (headerChars channel recipient) = headerWords channel recipient := by
  cases channel with
  | none =>
      cases recipient with
      | none => rfl
      | some r => exact words_marked (h r rfl)
  | some channel =>
      have hne : channel.name.toList ≠ [] := by cases channel <;> decide
      cases recipient with
      | none => exact Text.words_of_forall hne (isBlank_name channel)
      | some r =>
          have hc : headerChars (some channel) (some r) =
              channel.name.toList ++ ' ' :: (Header.recipientMark ++ r.toList) := by
            rw [headerChars, List.append_assoc]
            rfl
          rw [hc, Text.words_append_blank hne (isBlank_name channel) (by decide),
            words_marked (h r rfl)]
          rfl

theorem dropLeading?_name (channel : Channel) :
    Text.dropLeading? Header.recipientMark channel.name.toList = none := by
  cases channel <;> decide

theorem says_headerWords {channel : Option Channel} {recipient : Option String}
    (h : ∀ r ∈ recipient, r ≠ "") :
    Header.Says ⟨channel, recipient⟩ (headerWords channel recipient) := by
  have hdrop (r : String) : Text.dropLeading? Header.recipientMark
      (Header.recipientMark ++ r.toList) = some r.toList := Text.dropLeading?_eq_some.2 rfl
  constructor
  · have hnames : Header.names (headerWords channel recipient) =
        (channel.map fun c => c.name.toList).toList := by
      cases channel <;> cases recipient <;>
        simp [Header.names, headerWords, dropLeading?_name, hdrop]
    rw [hnames]
    cases channel with
    | none => exact .none
    | some channel =>
        refine .some ?_
        rw [Header.Names, String.ofList_toList]
        exact Text.sameIgnoringAsciiCase_refl _
  · have hrecipients : Header.recipients (headerWords channel recipient) =
        (recipient.map String.toList).toList := by
      cases recipient with
      | none => cases channel <;> simp [Header.recipients, headerWords, dropLeading?_name]
      | some r =>
          have hr : r.toList ≠ [] := by
            rw [Ne, String.toList_eq_nil_iff]
            exact h r rfl
          cases channel <;>
            simp [Header.recipients, headerWords, dropLeading?_name, hdrop, hr]
    rw [hrecipients]
    cases recipient <;> simp

theorem Lacks.append_of_blank {tokens : List Token} {cs after : List Char} (h : Lacks tokens cs)
    (ha : ∀ c ∈ after, Text.isBlank c = true) : Lacks tokens (cs ++ after) := by
  induction after using List.reverseRecOn with
  | nil => rwa [List.append_nil]
  | append_singleton after c ih =>
      obtain ⟨hafter, hc⟩ := List.forall_mem_append.1 ha
      intro t ht hi
      rw [← List.append_assoc] at hi
      rcases List.infix_concat_iff.1 hi with ⟨zs, hz⟩ | hi
      · have hlast := congrArg List.getLast? hz
        rw [List.getLast?_concat, List.getLast?_append_of_ne_nil _ (by cases t <;> decide)] at hlast
        have hblank := hc c List.mem_cons_self
        cases t <;> cases hlast <;> exact absurd hblank (by decide)
      · exact ih hafter t ht hi

theorem lacks_trim_iff {tokens : List Token} {cs : List Char} :
    Lacks tokens (Text.trim cs) ↔ Lacks tokens cs := by
  constructor
  · intro h
    obtain ⟨before, after, hb, ha, hcs⟩ := Text.exists_eq_append_trim cs
    rw [hcs]
    refine .append_of_not_mem ?_ (h.append_of_blank ha)
    intro hm
    exact absurd (hb _ hm) (by decide)
  · exact fun h => h.mono (Text.trim_isInfix cs)

theorem lacks_headerChars {channel : Option Channel} {recipient : Option String}
    (h : ∀ r ∈ recipient, Lacks Token.afterChannel r.toList) :
    Lacks Token.afterChannel (headerChars channel recipient) := by
  cases channel with
  | none =>
      cases recipient with
      | none => exact lacks_nil _
      | some r => exact .append_of_not_mem (by decide) (h r rfl)
  | some channel =>
      cases recipient with
      | none =>
          apply lacks_of_not_mem
          cases channel <;> decide
      | some r =>
          refine .append_of_not_mem ?_ (h r rfl)
          cases channel <;> decide

section
variable {m : Message} (h : m.trimmed.HeadFramed)
include h

theorem headWellFormed_frameOf : (frameOf m).HeadWellFormed := by
  refine ⟨?_, ?_, ?_⟩
  · have hrole := h.role_lacks
    rwa [m.toList_role_trimmed, lacks_trim_iff] at hrole
  · intro part hp
    unfold frameOf at hp
    dsimp only at hp
    split at hp
    · cases hp
      exact lacks_headerChars fun r hr => (h.recipient r hr).2.2
    · cases hp
  · intro part hp
    obtain ⟨type, ht, rfl⟩ := Option.map_eq_some_iff.1 hp
    exact (h.contentType type ht).2

theorem headerSays_frameOf :
    Frame.HeaderSays (frameOf m).header ⟨m.channel, m.recipient⟩ := by
  unfold frameOf
  dsimp only
  split
  · have hwords : Text.words (headerChars m.channel m.recipient) =
        headerWords m.channel m.recipient := words_headerChars fun r hr => (h.recipient r hr).2.1
    rw [Frame.HeaderSays, hwords]
    exact says_headerWords fun r hr => (h.recipient r hr).1
  · rename_i hnone
    simp only [Bool.or_eq_true, not_or, Bool.not_eq_true, Option.isSome_eq_false_iff,
      Option.isNone_iff_eq_none] at hnone
    rw [Frame.HeaderSays, hnone.1, hnone.2]

theorem contentType_frameOf : m.contentType =
    (frameOf m).contentType.map fun part => String.ofList (Text.trim part) := by
  cases hc : m.contentType with
  | none => simp [frameOf, hc]
  | some type => simp [frameOf, hc, (h.contentType type hc).1]

theorem role_frameOf_shows : ¬ ∀ c ∈ (frameOf m).role, Text.isBlank c = true := by
  intro hb
  rw [← Text.trim_eq_nil_iff, frameOf, ← m.toList_role_trimmed, String.toList_eq_nil_iff] at hb
  exact h.role_ne hb

end

/-- What stands in front of the body of a frame gives a role, a recipient and a content type that
can be written. -/
theorem headFramed_of_standsFor {f : Frame} {m : Message} (hw : f.WellFormed)
    (hs : f.StandsFor m) : m.HeadFramed := by
  have hrole : m.role.toList = Text.trim f.role := by rw [hs.role, String.toList_ofList]
  constructor
  · intro he
    rw [he] at hrole
    exact hw.role_shows (Text.trim_eq_nil_iff.1 hrole.symm)
  · rw [hrole, Text.trim_trim]
  · rw [hrole]
    exact hw.role.mono (Text.trim_isInfix f.role)
  · intro r hr
    have hh := hs.header
    unfold Frame.HeaderSays at hh
    split at hh
    · have hnone : m.recipient = none := congrArg Header.recipient hh
      rw [hnone] at hr
      cases hr
    · rename_i part hp
      have hrec := hh.recipient
      dsimp only at hrec
      rw [hr] at hrec
      obtain ⟨word, hlast, rfl⟩ := Option.map_eq_some_iff.1 hrec.symm
      obtain ⟨hm, hne⟩ := Header.mem_recipients.1 (List.mem_of_getLast? hlast)
      obtain ⟨hpart, _, hblank⟩ := Text.mem_words hm
      refine ⟨?_, ?_, ?_⟩
      · intro he
        rw [← String.toList_inj, String.toList_ofList] at he
        exact hne he
      · intro c hc
        rw [String.toList_ofList] at hc
        exact hblank c (List.mem_append_right _ hc)
      · rw [String.toList_ofList]
        exact (hw.header part hp).mono ((List.suffix_append _ _).isInfix.trans hpart)
  · intro type ht
    have hc := hs.contentType
    rw [ht] at hc
    obtain ⟨part, hp, rfl⟩ := Option.map_eq_some_iff.1 hc.symm
    rw [String.toList_ofList, Text.trim_trim]
    exact ⟨rfl, (hw.contentType part hp).mono (Text.trim_isInfix part)⟩

end Wire

end Dialogue
