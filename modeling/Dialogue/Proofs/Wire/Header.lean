import Dialogue.Proofs.Text.Case
import Dialogue.Wire.Parser

/-!
# What a channel header says

The words of a header are read from left to right. A word that begins with `to=` names a recipient;
the last that is not empty counts. Of the other words the first has to be the name of a channel, in
any letter case, and the rest are passed over.

`Header.Says` states this without an order of reading, and reading comes to a header exactly when
the words say it. Which characters separate words is not decided here.
-/
namespace Dialogue

namespace Channel

theorem toLower_name (c : Channel) : c.name.toLower = c.name := by
  rw [← String.toList_inj, Text.toList_toLower]
  cases c <;> decide

theorem lookup_known {key : String} {c : Channel} : known.lookup key = some c ↔ key = c.name := by
  constructor
  · intro h
    simp only [known, List.lookup_cons, List.lookup_nil] at h
    split at h
    · rename_i hk
      cases h
      exact eq_of_beq hk
    · split at h
      · rename_i hk
        cases h
        exact eq_of_beq hk
      · split at h
        · rename_i hk
          cases h
          exact eq_of_beq hk
        · cases h
  · rintro rfl
    cases c <;> rfl

theorem ofName?_eq_some_iff {s : String} {c : Channel} :
    ofName? s = some c ↔ Text.sameIgnoringAsciiCase s c.name = true := by
  rw [ofName?, lookup_known, Text.sameIgnoringAsciiCase, toLower_name, beq_iff_eq]

end Channel

namespace Wire.Header

def names (words : List (List Char)) : List (List Char) :=
  words.filter fun word => (Text.dropLeading? recipientMark word).isNone

/-- The recipients that the words name, without the empty ones. -/
def recipients (words : List (List Char)) : List (List Char) :=
  (words.filterMap (Text.dropLeading? recipientMark)).filter fun recipient => !recipient.isEmpty

def Names (word : List Char) (channel : Channel) : Prop :=
  Text.sameIgnoringAsciiCase (String.ofList word) channel.name = true

theorem rel_names_iff {word : List Char} {found : Option Channel} :
    Option.Rel Names (some word) found ↔
      ∃ c, found = some c ∧ Channel.ofName? (String.ofList word) = some c := by
  cases found with
  | none => simp
  | some c => simp [Names, Channel.ofName?_eq_some_iff]

/-- The words of a header say that it has this channel and this recipient. -/
structure Says (header : Header) (words : List (List Char)) : Prop where
  channel : Option.Rel Names (names words).head? header.channel
  recipient : header.recipient = (recipients words).getLast?.map String.ofList

theorem mem_recipients {words : List (List Char)} {recipient : List Char} :
    recipient ∈ recipients words ↔ recipientMark ++ recipient ∈ words ∧ recipient ≠ [] := by
  simp [recipients, List.mem_filter, List.mem_filterMap, Text.dropLeading?_eq_some]

/-- The recipient that counts: the last one named, or else the one known before. -/
def lastRecipient (words : List (List Char)) (known : Option String) : Option String :=
  ((recipients words).getLast?.map String.ofList).or known

section
variable {word : List Char} {words : List (List Char)}

theorem lastRecipient_cons_of_none (h : Text.dropLeading? recipientMark word = none)
    (known : Option String) : lastRecipient (word :: words) known = lastRecipient words known := by
  simp only [lastRecipient, recipients, List.filterMap_cons_none h]

theorem lastRecipient_cons_of_nil (h : Text.dropLeading? recipientMark word = some [])
    (known : Option String) : lastRecipient (word :: words) known = lastRecipient words known := by
  simp [lastRecipient, recipients, List.filterMap_cons_some h]

theorem lastRecipient_cons_of_some {recipient : List Char}
    (h : Text.dropLeading? recipientMark word = some recipient) (hr : recipient ≠ [])
    (known : Option String) :
    lastRecipient (word :: words) known =
      lastRecipient words (some (String.ofList recipient)) := by
  have hc : recipients (word :: words) = recipient :: recipients words := by
    simp [recipients, List.filterMap_cons_some h, hr]
  rw [lastRecipient, hc, List.getLast?_cons, lastRecipient]
  cases (recipients words).getLast? <;> rfl

theorem names_cons_of_some {recipient : List Char}
    (h : Text.dropLeading? recipientMark word = some recipient) :
    names (word :: words) = names words := by
  simp [names, h]

theorem names_cons_of_none (h : Text.dropLeading? recipientMark word = none) :
    names (word :: words) = word :: names words := by
  simp [names, h]

end

/-- Once the channel is known, reading only looks for recipients. -/
theorem readWords_of_channel {start header : Header} {channel : Channel}
    (hs : start.channel = some channel) (words : List (List Char)) :
    readWords start words = .ok header ↔
      header.channel = some channel ∧ header.recipient = lastRecipient words start.recipient := by
  induction words generalizing start with
  | nil =>
      obtain ⟨c, r⟩ := start
      obtain ⟨c', r'⟩ := header
      cases hs
      simp [readWords, lastRecipient, recipients, eq_comm]
  | cons word words ih =>
      rw [readWords]
      split
      · rename_i hw
        rw [ih hs, lastRecipient_cons_of_nil hw]
      · rename_i recipient hr hw
        have hi := @ih { start with recipient := some (String.ofList recipient) } hs
        rw [hi, lastRecipient_cons_of_some hw hr]
      · rename_i hw
        rw [if_pos (by simp [hs]), ih hs, lastRecipient_cons_of_none hw]

theorem readWords_of_no_channel {start header : Header} (hs : start.channel = none)
    (words : List (List Char)) :
    readWords start words = .ok header ↔ Option.Rel Names (names words).head? header.channel ∧
      header.recipient = lastRecipient words start.recipient := by
  induction words generalizing start with
  | nil =>
      obtain ⟨c, r⟩ := start
      obtain ⟨c', r'⟩ := header
      cases hs
      cases c' <;> simp [readWords, lastRecipient, recipients, names, eq_comm]
  | cons word words ih =>
      rw [readWords]
      split
      · rename_i hw
        rw [ih hs, lastRecipient_cons_of_nil hw, names_cons_of_some hw]
      · rename_i recipient hr hw
        have hi := @ih { start with recipient := some (String.ofList recipient) } hs
        rw [hi, lastRecipient_cons_of_some hw hr, names_cons_of_some hw]
      · rename_i hw
        rw [if_neg (by simp [hs]), lastRecipient_cons_of_none hw, names_cons_of_none hw,
          List.head?_cons]
        split
        · rename_i channel hc
          rw [readWords_of_channel rfl, rel_names_iff, hc]
          simp
        · rename_i hc
          rw [rel_names_iff, hc]
          simp

/-- Reading comes to a header exactly when the words say it. -/
theorem readWords_eq_ok_iff {words : List (List Char)} {header : Header} :
    readWords {} words = .ok header ↔ header.Says words := by
  rw [readWords_of_no_channel rfl, lastRecipient, Option.or_none]
  constructor
  · rintro ⟨hc, hr⟩
    exact ⟨hc, hr⟩
  · intro h
    exact ⟨h.channel, h.recipient⟩

/-- An error tells the first word that names no recipient, where it is no name of a channel. -/
theorem first_name_of_readWords {start : Header} {words : List (List Char)} {name : String}
    (hs : start.channel = none) (h : readWords start words = .error name) :
    (names words).head? = some name.toList ∧ Channel.ofName? name = none := by
  induction words generalizing start with
  | nil => cases h
  | cons word words ih =>
      rw [readWords] at h
      split at h
      · rename_i hw
        rw [names_cons_of_some hw]
        exact ih hs h
      · rename_i recipient _ hw
        rw [names_cons_of_some hw]
        exact @ih { start with recipient := some (String.ofList recipient) } hs h
      · rename_i hw
        rw [names_cons_of_none hw, List.head?_cons]
        rw [if_neg (by simp [hs])] at h
        split at h
        · rename_i channel _
          -- once the channel is known every word can be read
          let known : Header := { start with channel := some channel }
          let header : Header := ⟨some channel, lastRecipient words known.recipient⟩
          have hread : readWords known words = .ok header :=
            (readWords_of_channel rfl words).2 ⟨rfl, rfl⟩
          exact absurd (h.symm.trans hread) nofun
        · rename_i hunknown
          cases h
          exact ⟨by rw [String.toList_ofList], hunknown⟩

end Wire.Header

end Dialogue
