import Dialogue.Proofs.Wire.Slices

/-!
# Where reading fails

Text that cannot be read begins with the frames of the messages in front of the faulty one, and ends
with the text behind the `<|start|>` of that one. `FailsAt` says of every error what is wrong there
and which place the error tells: the place behind `<|start|>` if there is no role or no
`<|message|>`, the place behind `<|channel|>` if the header names no channel, and the place behind
`<|message|>` if the body has no end. Such a place is in the text and between characters.
-/
namespace Dialogue.Wire

namespace FormatError

def index : FormatError → Nat
  | missingRole index _ => index
  | headerWithoutMessage index _ => index
  | unknownChannel index _ _ => index
  | missingTerminator index _ => index
  | invalidJson index _ _ => index

def offset? : FormatError → Option Nat
  | missingRole _ offset => some offset
  | headerWithoutMessage _ offset => some offset
  | unknownChannel _ offset _ => some offset
  | missingTerminator _ offset => some offset
  | invalidJson _ _ _ => none

end FormatError

/-- What stands in front of the body of a frame, after `<|start|>`. -/
def Frame.head (f : Frame) : List Char :=
  f.role ++ (Token.channel.leading f.header ++
    (Token.constrain.leading f.contentType ++ Token.message.chars))

theorem Frame.inner_eq_head (f : Frame) : f.inner = f.head ++ (f.body ++ f.closer.chars) := by
  simp only [inner, head, List.append_assoc]

/-- The message with the number `index`, which begins with `rest` at the place `offset`, cannot be
read, for the reason that the error tells. -/
inductive FailsAt (index offset : Nat) (rest : List Char) : FormatError → Prop
  /-- There are only blanks where the role should be. -/
  | missingRole {role after : List Char} {t : Token} (hr : rest = role ++ (t.chars ++ after))
      (ht : t ∈ Token.afterRole) (hrole : ∀ c ∈ role, Text.isBlank c = true) :
      FailsAt index offset rest (.missingRole index offset)
  | headerWithoutMessage (h : Lacks [.message] rest) :
      FailsAt index offset rest (.headerWithoutMessage index offset)
  /-- The first word of the header that names no recipient is no channel. -/
  | unknownChannel {role header after : List Char} {next : Token} {name : String}
      (hr : rest = role ++ (Token.channel.chars ++ (header ++ (next.chars ++ after))))
      (hrole : Lacks Token.afterRole role) (hheader : Lacks Token.afterChannel header)
      (hnext : next ∈ Token.afterChannel)
      (hname : (Header.names (Text.words header)).head? = some name.toList)
      (hunknown : Channel.ofName? name = none) :
      FailsAt index offset rest
        (.unknownChannel index (offset + Text.byteLength (role ++ Token.channel.chars)) name)
  /-- Nothing closes the body; the closer of the frame has no part in this. -/
  | missingTerminator {f : Frame} (hr : rest = f.head ++ f.body) (hf : f.HeadWellFormed)
      (hbody : Lacks Token.terminators f.body) :
      FailsAt index offset rest (.missingTerminator index (offset + Text.byteLength f.head))
  /-- The body is declared to be JSON and is not. -/
  | invalidJson {f : Frame} {type : String} {fault : Json.Fault} {after : List Char}
      (hr : rest = f.inner ++ after) (hf : f.WellFormed)
      (htype : f.contentType.map (fun part => String.ofList (Text.trim part)) = some type)
      (hholds : holdsJson type = true) (hbody : Json.ofChars f.body = .error fault) :
      FailsAt index offset rest (.invalidJson index type (fault.message f.body))

namespace FailsAt
variable {index offset : Nat} {rest : List Char} {e : FormatError}

theorem index_eq (h : FailsAt index offset rest e) : e.index = index := by
  cases h <;> rfl

/-- The place that the error tells is behind a beginning of the message. -/
theorem exists_beginning (h : FailsAt index offset rest e) {place : Nat}
    (hp : e.offset? = some place) :
    ∃ before, before <+: rest ∧ place = offset + Text.byteLength before := by
  cases h with
  | missingRole => cases hp; exact ⟨[], List.nil_prefix, rfl⟩
  | headerWithoutMessage => cases hp; exact ⟨[], List.nil_prefix, rfl⟩
  | unknownChannel hr =>
      cases hp
      refine ⟨_, ?_, rfl⟩
      rw [hr, ← List.append_assoc]
      exact List.prefix_append _ _
  | missingTerminator hr =>
      cases hp
      exact ⟨_, hr ▸ List.prefix_append _ _, rfl⟩
  | invalidJson => cases hp

end FailsAt

theorem readHeader_eq_error {missing e : FormatError} {index : Nat} {t : Token} {here : Cursor}
    (h : readHeader missing index t here = .error e) :
    t = .channel ∧ ((e = missing ∧ Lacks Token.afterChannel here.rest) ∨
      ∃ (header after : List Char) (next : Token) (name : String),
        e = .unknownChannel index here.offset name ∧ next ∈ Token.afterChannel ∧
        Lacks Token.afterChannel header ∧ here.rest = header ++ (next.chars ++ after) ∧
        (Header.names (Text.words header)).head? = some name.toList ∧
        Channel.ofName? name = none) := by
  unfold readHeader at h
  split at h
  · rename_i ht
    refine ⟨ht, ?_⟩
    split at h
    · rename_i hcut
      cases h
      exact .inl ⟨rfl, Cursor.cutAt?_eq_none_iff.1 hcut⟩
    · rename_i header next after hcut
      obtain ⟨hnext, hlacks, hr, _⟩ := Cursor.cutAt?_eq_some_iff.1 hcut
      split at h
      · rename_i name hname
        cases h
        obtain ⟨hfirst, hunknown⟩ := Header.first_name_of_readWords rfl hname
        exact .inr ⟨header, _, next, name, rfl, hnext, hlacks, hr, hfirst, hunknown⟩
      · cases h
  · cases h

theorem readContentType_eq_error {missing e : FormatError} {t : Token} {here : Cursor}
    (h : readContentType missing t here = .error e) :
    t = .constrain ∧ e = missing ∧ Lacks Token.afterConstrain here.rest := by
  unfold readContentType at h
  split at h
  · rename_i ht
    split at h
    · rename_i hcut
      cases h
      exact ⟨ht, rfl, Cursor.cutAt?_eq_none_iff.1 hcut⟩
    · cases h
  · cases h

theorem readContent_eq_error {e : FormatError} {index : Nat} {contentType : Option String}
    {raw : List Char} (h : readContent index contentType raw = .error e) :
    ∃ type fault, contentType = some type ∧ holdsJson type = true ∧
      Json.ofChars raw = .error fault ∧ e = .invalidJson index type (fault.message raw) := by
  unfold readContent at h
  split at h
  · cases h
  · rename_i type
    split at h
    · rename_i hholds
      cases hj : Json.ofChars raw with
      | ok j => rw [hj] at h; cases h
      | error fault =>
          rw [hj] at h
          cases h
          exact ⟨type, fault, rfl, hholds, rfl, rfl⟩
    · cases h

theorem Lacks.append_leading {tokens : List Token} {cs : List Char} {t : Token}
    {part : Option (List Char)} (h : Lacks tokens cs) (ht : t ∉ tokens)
    (hp : ∀ p ∈ part, Lacks tokens p) : Lacks tokens (cs ++ t.leading part) := by
  cases part with
  | none => rwa [Token.leading, List.append_nil]
  | some part => exact h.append_token ht (hp part rfl)

/-- A message that is not read fails for the reason that the error tells. -/
theorem failsAt_of_readMessage {index : Nat} {here : Cursor} {e : FormatError}
    (h : readMessage index here = .error e) : FailsAt index here.offset here.rest e := by
  unfold readMessage at h
  dsimp only at h
  split at h
  · rename_i hcut
    cases h
    have hlacks := Cursor.cutAt?_eq_none_iff.1 hcut
    exact .headerWithoutMessage (hlacks.of_subset (by decide))
  · rename_i role t here₁ hcut
    obtain ⟨ht, hrole, hr₁, hl₁⟩ := Cursor.cutAt?_eq_some_iff.1 hcut
    have hmessage : Lacks [.message] role := hrole.of_subset (by decide)
    split at h
    · rename_i hblank
      cases h
      exact .missingRole hr₁ ht (Text.trim_eq_nil_iff.1 (List.isEmpty_iff.1 hblank))
    · rename_i hshows
      rw [List.isEmpty_iff, Text.trim_eq_nil_iff] at hshows
      simp only [bind_eq_error_iff, Prod.exists] at h
      rcases h with hh | ⟨header, next, here₂, hh, hk | ⟨contentType, here₃, hk, h⟩⟩
      · obtain ⟨rfl, ⟨rfl, hlacks⟩ | ⟨header, after, next, name, rfl, hnext, hlacks, hr, hn, hu⟩⟩ :=
          readHeader_eq_error hh
        · apply FailsAt.headerWithoutMessage
          rw [hr₁]
          exact hmessage.append_token (by decide) (hlacks.of_subset (by decide))
        · have hplace : here₁.offset =
              here.offset + Text.byteLength (role ++ Token.channel.chars) :=
            Cursor.offset_eq (by rw [hr₁, List.append_assoc]) hl₁
          rw [hplace]
          exact .unknownChannel (by rw [hr₁, hr]) hrole hlacks hnext hn hu
      · obtain ⟨part, hpart, _, hnext, hr₂, hl₂⟩ := (readHeader_eq_ok_iff ht).1 hh
        obtain ⟨rfl, rfl, hlacks⟩ := readContentType_eq_error hk
        have hheader : ∀ p ∈ part, Lacks [.message] p :=
          fun p hp => (hpart p hp).of_subset (by decide)
        apply FailsAt.headerWithoutMessage
        rw [hr₁, hr₂, ← List.append_assoc]
        exact (hmessage.append_leading (by decide) hheader).append_token (by decide) hlacks
      · obtain ⟨part, hpart, _, hnext, hr₂, hl₂⟩ := (readHeader_eq_ok_iff ht).1 hh
        obtain ⟨kind, hkind, htype, hr₃, hl₃⟩ := (readContentType_eq_ok_iff hnext).1 hk
        have hr : here.rest = role ++ (Token.channel.leading part ++
            (Token.constrain.leading kind ++ (Token.message.chars ++ here₃.rest))) := by
          rw [hr₁, hr₂, hr₃]
        split at h
        · rename_i hcut
          cases h
          let f : Frame := ⟨role, part, kind, here₃.rest, .finish⟩
          have hf : here.rest = f.head ++ here₃.rest := by
            simp only [hr, Frame.head, f, List.append_assoc]
          rw [Cursor.offset_eq hf (hl₃.trans (hl₂.trans hl₁))]
          exact .missingTerminator (f := f) hf ⟨hrole, hpart, hkind⟩
            (Cursor.cutAt?_eq_none_iff.1 hcut)
        · rename_i body closer here₄ hcut
          obtain ⟨hcloser, hbody, hr₄, _⟩ := Cursor.cutAt?_eq_some_iff.1 hcut
          rcases bind_eq_error_iff.1 h with hcontent | ⟨_, _, hpure⟩
          · obtain ⟨type, fault, hsome, hholds, hjson, rfl⟩ := readContent_eq_error hcontent
            let f : Frame := ⟨role, part, kind, body, closer⟩
            have hf : here.rest = f.inner ++ here₄.rest := by
              simp only [hr, hr₄, Frame.inner, f, List.append_assoc]
            exact .invalidJson (f := f) hf ⟨hrole, hshows, hpart, hkind, hbody, hcloser⟩
              (htype.symm.trans hsome) hholds hjson
          · cases hpure

/-- Reading fails behind the frames of messages that are read, and behind a `<|start|>`. -/
theorem failsAt_of_parseFrom {fuel index : Nat} {here : Cursor} {e : FormatError}
    (h : parseFrom fuel index here = .error e) :
    ∃ (parts : List (List Char × Frame)) (ms : List Message) (gap rest : List Char),
      (∀ part ∈ parts, Lacks [.start] part.1 ∧ part.2.WellFormed) ∧
      List.Forall₂ (fun part m => part.2.StandsFor m) parts ms ∧ Lacks [.start] gap ∧
      here.rest = parts.flatMap Split.partChars ++ (gap ++ (Token.start.chars ++ rest)) ∧
      FailsAt (index + ms.length) (here.offset +
        Text.byteLength (parts.flatMap Split.partChars ++ (gap ++ Token.start.chars))) rest e := by
  induction fuel generalizing index here with
  | zero => cases h
  | succ fuel ih =>
      rw [parseFrom] at h
      split at h
      · cases h
      · rename_i gap t header hcut
        split at h
        · rename_i e' hread
          cases h
          obtain ⟨ht, hgap, hr, hl⟩ := Cursor.cutAt?_eq_some_iff.1 hcut
          obtain rfl := List.mem_singleton.1 ht
          have hplace : header.offset = here.offset + Text.byteLength (gap ++ Token.start.chars) :=
            Cursor.offset_eq (by rw [hr, List.append_assoc]) hl
          have hfails := failsAt_of_readMessage hread
          rw [hplace] at hfails
          exact ⟨[], [], gap, header.rest, List.forall_mem_nil _, .nil, hgap, hr, hfails⟩
        · rename_i m after hread
          obtain ⟨f, hgap, hf, hm, hr, hl⟩ := exists_part_of_read hcut hread
          split at h
          · rename_i e' hrest
            cases h
            obtain ⟨parts, ms, gap', rest, hparts, hs, hgap', hr', hfails⟩ := ih hrest
            refine ⟨(gap, f) :: parts, m :: ms, gap', rest,
              List.forall_mem_cons.2 ⟨⟨hgap, hf⟩, hparts⟩, .cons hm hs, hgap', ?_, ?_⟩
            · rw [hr, hr', List.flatMap_cons, List.append_assoc]
            · rw [List.flatMap_cons, List.length_cons, List.append_assoc, Text.byteLength_append,
                ← Nat.add_assoc here.offset, ← Cursor.offset_eq hr hl, Nat.add_comm ms.length,
                ← Nat.add_assoc]
              exact hfails
          · cases h

theorem ends_of_frames {parts : List (List Char × Frame)}
    (hparts : ∀ part ∈ parts, Lacks [.start] part.1 ∧ part.2.WellFormed) :
    parts.flatMap Split.partChars = [] ∨
      ∃ t ∈ Token.terminators, t.chars <:+ parts.flatMap Split.partChars := by
  rcases List.eq_nil_or_concat parts with rfl | ⟨init, part, rfl⟩
  · exact .inl rfl
  · obtain ⟨_, hf⟩ := hparts part (by simp)
    refine .inr ⟨part.2.closer, hf.closer, ?_⟩
    simp only [List.concat_eq_append, List.flatMap_append, List.flatMap_singleton, Split.partChars,
      Frame.chars, Frame.inner_eq_head, ← List.append_assoc]
    exact List.suffix_append _ _

/-- An error tells how many messages are read in front of the faulty one: these are the messages of
the text up to a terminator, or of no text at all, and only text without `<|start|>` stands between
them and the `<|start|>` of the faulty one. It also tells what is wrong with that one and where, as
`FailsAt` says, and the place is in the text and not inside a character. Whether reading succeeds or
fails, all slices that it takes are there, which means that both ends are such places. -/
theorem parse_error_place (text : String) :
    (∀ e, parse text = .error e → ∃ (before gap rest : List Char) (ms : List Message),
      text.toList = before ++ (gap ++ (Token.start.chars ++ rest)) ∧
      parse (String.ofList before) = .ok ms ∧ ms.length = e.index ∧
      (before = [] ∨ ∃ t ∈ Token.terminators, t.chars <:+ before) ∧ Lacks [.start] gap ∧
      FailsAt ms.length (Text.byteLength (before ++ (gap ++ Token.start.chars))) rest e ∧
      ∀ place ∈ e.offset?, String.Pos.Raw.IsValid text ⟨place⟩) ∧
    parseSliced text = some (parse text) ∧
    ∀ start stop, (Text.slice? text.toList start stop).isSome = true ↔ start ≤ stop ∧
      String.Pos.Raw.IsValid text ⟨start⟩ ∧ String.Pos.Raw.IsValid text ⟨stop⟩ := by
  have hslices (start stop : Nat) : (Text.slice? text.toList start stop).isSome = true ↔
      start ≤ stop ∧ String.Pos.Raw.IsValid text ⟨start⟩ ∧ String.Pos.Raw.IsValid text ⟨stop⟩ := by
    rw [Text.slice?_isSome_iff, Text.isBoundary_toList_iff, Text.isBoundary_toList_iff]
  refine ⟨?_, parseSliced_eq text, hslices⟩
  intro e h
  obtain ⟨parts, ms, gap, rest, hparts, hs, hgap, hr, hfails⟩ := failsAt_of_parseFrom h
  let before := parts.flatMap Split.partChars
  let front := before ++ (gap ++ Token.start.chars)
  have htext : text.toList = front ++ rest := by
    dsimp only at hr
    simp only [hr, front, before, List.append_assoc]
  have hread : parse (String.ofList before) = .ok ms := by
    apply parse_eq_ok_iff.2
    refine ⟨⟨parts, []⟩, ⟨hparts, lacks_nil _⟩, hs, ?_⟩
    rw [String.toList_ofList, Split.chars, List.append_nil]
  rw [Nat.zero_add, Nat.zero_add] at hfails
  have hvalid (place : Nat) (hplace : e.offset? = some place) :
      String.Pos.Raw.IsValid text ⟨place⟩ := by
    obtain ⟨xs, ⟨ys, rfl⟩, hxs⟩ := hfails.exists_beginning hplace
    refine Text.isBoundary_toList_iff.1 ⟨front ++ xs, ⟨ys, ?_⟩, ?_⟩
    · rw [htext, List.append_assoc]
    · rw [Text.byteLength_append, hxs]
  exact ⟨before, gap, rest, ms, hr, hread, hfails.index_eq.symm, ends_of_frames hparts, hgap,
    hfails, hvalid⟩

/-- Text with a message in it and the beginning of another one, in no channel that is known. -/
def misdirected : String :=
  "é<|start|>a<|message|>x<|end|>é<|start|>b<|channel|>ü to=c<|message|>"

/-- The place that is told is behind the `<|channel|>` of the second message. -/
theorem parse_error_place_misdirected :
    parse misdirected = .error (.unknownChannel 1 54 "ü") ∧
      (∃ (before gap rest : List Char) (ms : List Message),
        misdirected.toList = before ++ (gap ++ (Token.start.chars ++ rest)) ∧
        parse (String.ofList before) = .ok ms ∧ ms.length = 1 ∧
        FailsAt ms.length (Text.byteLength (before ++ (gap ++ Token.start.chars))) rest
          (.unknownChannel 1 54 "ü")) ∧
      parseSliced misdirected = some (.error (.unknownChannel 1 54 "ü")) := by
  have hparse : parse misdirected = .error (.unknownChannel 1 54 "ü") := by decide +kernel
  obtain ⟨hplace, hsliced, _⟩ := parse_error_place misdirected
  obtain ⟨before, gap, rest, ms, htext, hread, hlength, _, _, hfails, _⟩ := hplace _ hparse
  exact ⟨hparse, ⟨before, gap, rest, ms, htext, hread, hlength, hfails⟩, hparse ▸ hsliced⟩

end Dialogue.Wire
