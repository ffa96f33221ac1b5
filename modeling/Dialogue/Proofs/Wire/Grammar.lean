import Dialogue.Proofs.Except
import Dialogue.Proofs.Text.Blank
import Dialogue.Proofs.Wire.Delimiter
import Dialogue.Proofs.Wire.Header

/-!
# The grammar of running text

A frame is a message as it stands in running text: a role, perhaps a channel header, perhaps a
content type, a body and the token that closes it. It is well formed when no part holds a token that
would end the part. Running text is split into frames and the text between them, which holds no
`<|start|>`. Parts may hold tokens that do not end them, so a role may hold `<|end|>`.

A text is split in one way at most, and parsing succeeds exactly when the frames of a split stand
for the messages that it gives. What a header says and what JSON text is are left to `Header.Says`
and to `Json.ofChars`.
-/
namespace Dialogue

/-- The content type, if any, says that the content is JSON. -/
def Message.isStructured (m : Message) : Bool :=
  m.contentType.any fun type => type.toLower == "json" || type.toLower == "harmony-script"

namespace Wire

theorem any_holdsJson (contentType : Option String) :
    contentType.any holdsJson =
      contentType.any fun type => type.toLower == "json" || type.toLower == "harmony-script" := by
  have hjson : "json".toLower = "json" := by decide +kernel
  have hscript : "harmony-script".toLower = "harmony-script" := by decide +kernel
  unfold holdsJson Text.sameIgnoringAsciiCase
  rw [hjson, hscript]

namespace Token

/-- How the turn ended that the token closes. -/
inductive Closes : Token → Option Termination → Prop
  | finish : Closes finish (some .ended)
  | call : Closes call (some .called)
  | answer : Closes answer (some .returned)

theorem closes_iff {t : Token} (ht : t ∈ terminators) {ending : Option Termination} :
    t.Closes ending ↔ ending = some (terminationOf t) := by
  constructor
  · intro h
    cases h <;> rfl
  · rintro rfl
    rcases List.mem_cons.1 ht with rfl | ht
    · exact .finish
    · rcases List.mem_pair.1 ht with rfl | rfl
      · exact .call
      · exact .answer

theorem Closes.exists_eq_some {t : Token} {ending : Option Termination} (h : t.Closes ending) :
    ∃ e, ending = some e := by
  cases h <;> exact ⟨_, rfl⟩

/-- A token and the part behind it, or nothing where there is no such part. -/
def leading (t : Token) : Option (List Char) → List Char
  | none => []
  | some part => t.chars ++ part

theorem mem_afterChannel {t : Token} (h : t ∈ afterRole) (hc : t ≠ channel) : t ∈ afterChannel := by
  cases t <;> simp_all [afterRole, afterChannel]

theorem eq_message {t : Token} (h : t ∈ afterChannel) (hc : t ≠ constrain) : t = message := by
  cases t <;> simp_all [afterChannel]

theorem mem_afterRole {t : Token} (h : t ∈ afterChannel) : t ∈ afterRole := by
  cases t <;> simp_all [afterRole, afterChannel]

theorem exists_afterChannel (part : Option (List Char)) (cs : List Char) :
    ∃ t ys, t ∈ afterChannel ∧ constrain.leading part ++ (message.chars ++ cs) = t.chars ++ ys := by
  cases part with
  | none => exact ⟨message, cs, by decide, rfl⟩
  | some part => exact ⟨constrain, _, by decide, List.append_assoc _ _ _⟩

theorem exists_afterRole (part : Option (List Char)) {t : Token} (ht : t ∈ afterChannel)
    (cs : List Char) :
    ∃ u ys, u ∈ afterRole ∧ channel.leading part ++ (t.chars ++ cs) = u.chars ++ ys := by
  cases part with
  | none => exact ⟨t, cs, mem_afterRole ht, rfl⟩
  | some part => exact ⟨channel, _, by decide, List.append_assoc _ _ _⟩

end Token

/-- A message as it stands in running text. -/
structure Frame where
  role : List Char
  header : Option (List Char)
  contentType : Option (List Char)
  body : List Char
  closer : Token
  deriving Repr, DecidableEq

namespace Frame

def inner (f : Frame) : List Char :=
  f.role ++ (Token.channel.leading f.header ++ (Token.constrain.leading f.contentType ++
    (Token.message.chars ++ (f.body ++ f.closer.chars))))

def chars (f : Frame) : List Char := Token.start.chars ++ f.inner

/-- No part holds a token that would end it, and the role shows something. -/
structure WellFormed (f : Frame) : Prop where
  role : Lacks [.channel, .constrain, .message] f.role
  role_shows : ¬ ∀ c ∈ f.role, Text.isBlank c = true
  header : ∀ part ∈ f.header, Lacks [.constrain, .message] part
  contentType : ∀ part ∈ f.contentType, Lacks [.message] part
  body : Lacks [.finish, .call, .answer] f.body
  closer : f.closer ∈ [.finish, .call, .answer]

/-- What stands in front of the body holds no token that would end it. -/
structure HeadWellFormed (f : Frame) : Prop where
  role : Lacks Token.afterRole f.role
  header : ∀ part ∈ f.header, Lacks Token.afterChannel part
  contentType : ∀ part ∈ f.contentType, Lacks Token.afterConstrain part

theorem WellFormed.head {f : Frame} (h : f.WellFormed) : f.HeadWellFormed :=
  ⟨h.role, h.header, h.contentType⟩

/-- The header and the content type that the parts write. -/
def HeaderSays (part : Option (List Char)) (header : Header) : Prop :=
  match part with
  | none => header = {}
  | some part => header.Says (Text.words part)

/-- The body writes the content, as JSON where the content type says so. -/
def BodyWrites (body : List Char) (structured : Bool) (content : Json) : Prop :=
  if structured then Json.ofChars body = .ok content else content = .str (String.ofList body)

/-- The frame stands for the message. -/
structure StandsFor (f : Frame) (m : Message) : Prop where
  role : m.role = String.ofList (Text.trim f.role)
  header : HeaderSays f.header ⟨m.channel, m.recipient⟩
  contentType : m.contentType = f.contentType.map fun part => String.ofList (Text.trim part)
  body : BodyWrites f.body m.isStructured m.content
  closer : f.closer.Closes m.termination

end Frame

namespace Cursor

/-- The place where the text ends. It stays the same while the text is read. -/
def limit (here : Cursor) : Nat := here.offset + Text.byteLength here.rest

theorem exists_of_suffix {here : Cursor} {ys : List Char} (h : ys <:+ here.rest) :
    ∃ after : Cursor, after.rest = ys ∧ after.limit = here.limit := by
  obtain ⟨xs, hx⟩ := h
  refine ⟨⟨ys, here.offset + Text.byteLength xs⟩, rfl, ?_⟩
  unfold limit
  rw [← hx, Text.byteLength_append, Nat.add_assoc]

theorem offset_eq {here after : Cursor} {before : List Char}
    (hr : here.rest = before ++ after.rest) (hl : after.limit = here.limit) :
    after.offset = here.offset + Text.byteLength before := by
  simp only [limit, hr, Text.byteLength_append] at hl
  omega

theorem cutAt?_eq_none_iff {tokens : List Token} {here : Cursor} :
    here.cutAt? tokens = none ↔ Lacks tokens here.rest := by
  rw [cutAt?, Option.map_eq_none_iff, splitAtFirst?_eq_none_iff]

theorem cutAt?_eq_some_iff {tokens : List Token} {here after : Cursor} {before : List Char}
    {t : Token} :
    here.cutAt? tokens = some (before, t, after) ↔ t ∈ tokens ∧ Lacks tokens before ∧
      here.rest = before ++ (t.chars ++ after.rest) ∧ after.limit = here.limit := by
  obtain ⟨rest, offset⟩ := here
  obtain ⟨rest', offset'⟩ := after
  simp only [cutAt?, Option.map_eq_some_iff, splitAtFirst?_eq_some_iff, limit]
  constructor
  · rintro ⟨⟨b, u, a⟩, ⟨hm, hr, hl⟩, he⟩
    simp only [Prod.mk.injEq, Cursor.mk.injEq] at he hm hr hl
    obtain ⟨rfl, rfl, rfl, rfl⟩ := he
    refine ⟨hm, hl, hr, ?_⟩
    rw [hr, Text.byteLength_append, Text.byteLength_append]
    omega
  · rintro ⟨hm, hl, hr, ho⟩
    refine ⟨⟨before, t, rest'⟩, ⟨hm, hr, hl⟩, ?_⟩
    rw [hr, Text.byteLength_append, Text.byteLength_append] at ho
    simp only [Prod.mk.injEq, Cursor.mk.injEq, true_and]
    omega

end Cursor

theorem Cursor.eq_of_chars_append {t u : Token} {here after : Cursor}
    (h : t.chars ++ here.rest = u.chars ++ after.rest) (hl : after.limit = here.limit) :
    t = u ∧ here = after := by
  obtain ⟨rest, offset⟩ := here
  obtain ⟨rest', offset'⟩ := after
  obtain ⟨rfl, rfl⟩ := Token.chars_append_inj h
  simp only [Cursor.limit] at hl
  exact ⟨rfl, by rw [Nat.add_right_cancel hl]⟩

/-- A header is there if the token that ends the role is `<|channel|>`. -/
theorem readHeader_eq_ok_iff {missing : FormatError} {index : Nat} {t next : Token}
    {here after : Cursor} {header : Header} (ht : t ∈ Token.afterRole) :
    readHeader missing index t here = .ok (header, next, after) ↔
      ∃ part : Option (List Char), (∀ p ∈ part, Lacks Token.afterChannel p) ∧
        Frame.HeaderSays part header ∧ next ∈ Token.afterChannel ∧
        t.chars ++ here.rest = Token.channel.leading part ++ (next.chars ++ after.rest) ∧
        after.limit = here.limit := by
  unfold readHeader
  constructor
  · intro h
    split at h
    · rename_i hc
      subst hc
      split at h
      · cases h
      · rename_i before u after' hcut
        obtain ⟨hm, hl, hr, ho⟩ := Cursor.cutAt?_eq_some_iff.1 hcut
        split at h
        · cases h
        · rename_i found hw
          cases h
          refine ⟨some before, ?_, Header.readWords_eq_ok_iff.1 hw, hm, ?_, ho⟩
          · rintro p ⟨⟩
            exact hl
          · rw [hr, Token.leading, List.append_assoc]
    · rename_i hc
      cases h
      exact ⟨none, nofun, rfl, Token.mem_afterChannel ht hc, rfl, rfl⟩
  · rintro ⟨part, hl, hs, hn, hr, ho⟩
    cases part with
    | none =>
        obtain ⟨rfl, rfl⟩ := Cursor.eq_of_chars_append hr ho
        have hc : t ≠ .channel := by
          rintro rfl
          exact absurd hn (by decide)
        rw [if_neg hc, ← hs]
    | some part =>
        rw [Token.leading, List.append_assoc] at hr
        obtain ⟨rfl, hr'⟩ := Token.chars_append_inj hr
        rw [if_pos rfl, Cursor.cutAt?_eq_some_iff.2 ⟨hn, hl part rfl, hr', ho⟩]
        simp only [Header.readWords_eq_ok_iff.2 hs]

theorem readContentType_eq_ok_iff {missing : FormatError} {t : Token} {here after : Cursor}
    {contentType : Option String} (ht : t ∈ Token.afterChannel) :
    readContentType missing t here = .ok (contentType, after) ↔
      ∃ part : Option (List Char), (∀ p ∈ part, Lacks Token.afterConstrain p) ∧
        contentType = (part.map fun p => String.ofList (Text.trim p)) ∧
        t.chars ++ here.rest =
          Token.constrain.leading part ++ (Token.message.chars ++ after.rest) ∧
        after.limit = here.limit := by
  unfold readContentType
  constructor
  · intro h
    split at h
    · rename_i hc
      subst hc
      split at h
      · cases h
      · rename_i before u after' hcut
        obtain ⟨hm, hl, hr, ho⟩ := Cursor.cutAt?_eq_some_iff.1 hcut
        cases h
        obtain rfl : u = .message := by simpa [Token.afterConstrain] using hm
        refine ⟨some before, ?_, rfl, ?_, ho⟩
        · rintro p ⟨⟩
          exact hl
        · rw [hr, Token.leading, List.append_assoc]
    · rename_i hc
      cases h
      obtain rfl := Token.eq_message ht hc
      exact ⟨none, nofun, rfl, rfl, rfl⟩
  · rintro ⟨part, hl, rfl, hr, ho⟩
    cases part with
    | none =>
        obtain ⟨rfl, rfl⟩ := Cursor.eq_of_chars_append hr ho
        rw [if_neg (by decide)]
        rfl
    | some part =>
        rw [Token.leading, List.append_assoc] at hr
        obtain ⟨rfl, hr'⟩ := Token.chars_append_inj hr
        have hm : Token.message ∈ Token.afterConstrain := List.mem_singleton.2 rfl
        rw [if_pos rfl, Cursor.cutAt?_eq_some_iff.2 ⟨hm, hl part rfl, hr', ho⟩]
        rfl

theorem readContent_eq_ok_iff {index : Nat} {contentType : Option String} {raw : List Char}
    {content : Json} :
    readContent index contentType raw = .ok content ↔
      Frame.BodyWrites raw
        (contentType.any fun type => type.toLower == "json" || type.toLower == "harmony-script")
        content := by
  rw [← any_holdsJson]
  unfold readContent Frame.BodyWrites
  cases contentType with
  | none => simp [eq_comm]
  | some type =>
      simp only [Option.any_some]
      split
      · cases Json.ofChars raw <;> simp [Except.mapError]
      · simp [eq_comm]

/-- A message is read exactly from a well-formed frame that stands for it. -/
theorem readMessage_eq_ok_iff {index : Nat} {here after : Cursor} {m : Message} :
    readMessage index here = .ok (m, after) ↔
      ∃ f : Frame, f.WellFormed ∧ f.StandsFor m ∧ here.rest = f.inner ++ after.rest ∧
        after.limit = here.limit := by
  unfold readMessage
  constructor
  · intro h
    dsimp only at h
    split at h
    · cases h
    · rename_i role t here₁ hcut
      obtain ⟨ht, hrole, hr₁, ho₁⟩ := Cursor.cutAt?_eq_some_iff.1 hcut
      split at h
      · cases h
      · rename_i hshows
        simp only [bind_eq_ok_iff, Prod.exists] at h
        obtain ⟨header, next, here₂, hh, contentType, here₃, hk, h⟩ := h
        obtain ⟨part, hheader, hsays, hn, hr₂, ho₂⟩ := (readHeader_eq_ok_iff ht).1 hh
        obtain ⟨kind, hkind, rfl, hr₃, ho₃⟩ := (readContentType_eq_ok_iff hn).1 hk
        split at h
        · cases h
        · rename_i body closer here₄ hbody
          obtain ⟨hc, hb, hr₄, ho₄⟩ := Cursor.cutAt?_eq_some_iff.1 hbody
          simp only [bind_eq_ok_iff] at h
          obtain ⟨content, hcontent, h⟩ := h
          cases h
          refine ⟨⟨role, part, kind, body, closer⟩, ⟨hrole, ?_, hheader, hkind, hb, hc⟩,
            ⟨rfl, hsays, rfl, readContent_eq_ok_iff.1 hcontent, (Token.closes_iff hc).2 rfl⟩,
            ?_, ?_⟩
          · intro hblank
            rw [Text.trim_eq_nil_iff.2 hblank] at hshows
            exact hshows rfl
          · simp only [hr₁, hr₂, hr₃, hr₄, Frame.inner, List.append_assoc]
          · omega
  · rintro ⟨⟨role, part, kind, body, closer⟩, hw, hf, hr, ho⟩
    simp only [Frame.inner, List.append_assoc] at hr
    -- The places behind the role, the header and the content type, from the last to the first.
    obtain ⟨here₃, hr₃, ho₃⟩ : ∃ c : Cursor,
        c.rest = body ++ (closer.chars ++ after.rest) ∧ c.limit = here.limit := by
      apply Cursor.exists_of_suffix
      refine ⟨role ++ (Token.channel.leading part ++
        (Token.constrain.leading kind ++ Token.message.chars)), ?_⟩
      rw [hr]
      simp only [List.append_assoc]
    rw [← hr₃] at hr
    obtain ⟨next, ys₂, hn, hr₂⟩ := Token.exists_afterChannel kind here₃.rest
    rw [hr₂] at hr
    obtain ⟨here₂, rfl, ho₂⟩ : ∃ c : Cursor, c.rest = ys₂ ∧ c.limit = here.limit := by
      apply Cursor.exists_of_suffix
      refine ⟨role ++ (Token.channel.leading part ++ next.chars), ?_⟩
      rw [hr]
      simp only [List.append_assoc]
    obtain ⟨t, ys₁, ht, hr₁⟩ := Token.exists_afterRole part hn here₂.rest
    rw [hr₁] at hr
    obtain ⟨here₁, rfl, ho₁⟩ : ∃ c : Cursor, c.rest = ys₁ ∧ c.limit = here.limit := by
      apply Cursor.exists_of_suffix
      refine ⟨role ++ t.chars, ?_⟩
      rw [hr, List.append_assoc]
    have hcut := Cursor.cutAt?_eq_some_iff.2 ⟨ht, hw.role, hr, ho₁⟩
    have hshows : ¬ (Text.trim role).isEmpty = true := by
      rw [List.isEmpty_iff, Text.trim_eq_nil_iff]
      exact hw.role_shows
    have hheader : readHeader (.headerWithoutMessage index here.offset) index t here₁ =
        .ok (⟨m.channel, m.recipient⟩, next, here₂) :=
      (readHeader_eq_ok_iff ht).2 ⟨part, hw.header, hf.header, hn, hr₁.symm, by omega⟩
    have hkind : readContentType (.headerWithoutMessage index here.offset) next here₂ =
        .ok (m.contentType, here₃) :=
      (readContentType_eq_ok_iff hn).2
        ⟨kind, hw.contentType, hf.contentType, hr₂.symm, by omega⟩
    have hbody : here₃.cutAt? Token.terminators = some (body, closer, after) :=
      Cursor.cutAt?_eq_some_iff.2 ⟨hw.closer, hw.body, hr₃, by omega⟩
    have hcontent : readContent index m.contentType body = .ok m.content :=
      readContent_eq_ok_iff.2 hf.body
    simp only [hcut, if_neg hshows, hheader, hkind, hbody, hcontent, bind, Except.bind]
    rw [← hf.role, ← (Token.closes_iff hw.closer).1 hf.closer]
    rfl

/-- A text in parts: what stands in front of each frame, the frame, and what stands behind the last.
-/
structure Split where
  parts : List (List Char × Frame)
  rest : List Char
  deriving Repr, DecidableEq

namespace Split

def partChars (part : List Char × Frame) : List Char := part.1 ++ part.2.chars

def chars (s : Split) : List Char := s.parts.flatMap partChars ++ s.rest

/-- The frames are well formed and no message begins between them. -/
structure WellFormed (s : Split) : Prop where
  parts : ∀ part ∈ s.parts, Lacks [.start] part.1 ∧ part.2.WellFormed
  rest : Lacks [.start] s.rest

def StandsFor (s : Split) (ms : List Message) : Prop :=
  List.Forall₂ (fun part m => part.2.StandsFor m) s.parts ms

theorem chars_cons (gap : List Char) (f : Frame) (parts : List (List Char × Frame))
    (rest : List Char) :
    chars ⟨(gap, f) :: parts, rest⟩ =
      gap ++ (Token.start.chars ++ (f.inner ++ chars ⟨parts, rest⟩)) := by
  simp only [chars, List.flatMap_cons, partChars, Frame.chars, List.append_assoc]

end Split

theorem Split.chars_cons_part (part : List Char × Frame) (parts : List (List Char × Frame))
    (rest : List Char) : chars ⟨part :: parts, rest⟩ = partChars part ++ chars ⟨parts, rest⟩ := by
  simp only [chars, List.flatMap_cons, List.append_assoc]

theorem Split.length_lt_of_part {part : List Char × Frame} {cs rest : List Char}
    (h : cs = partChars part ++ rest) : rest.length < cs.length := by
  have hpos := Token.start.chars_length_pos
  rw [h]
  simp only [partChars, Frame.chars, List.length_append]
  omega

theorem exists_part_of_read {index : Nat} {gap : List Char} {t : Token} {m : Message}
    {here header after : Cursor} (hcut : here.cutAt? [.start] = some (gap, t, header))
    (hread : readMessage index header = .ok (m, after)) :
    ∃ f : Frame, Lacks [.start] gap ∧ f.WellFormed ∧ f.StandsFor m ∧
      here.rest = Split.partChars (gap, f) ++ after.rest ∧ after.limit = here.limit := by
  obtain ⟨ht, hgap, hr, hl⟩ := Cursor.cutAt?_eq_some_iff.1 hcut
  obtain rfl := List.mem_singleton.1 ht
  obtain ⟨f, hw, hs, hi, hl'⟩ := readMessage_eq_ok_iff.1 hread
  refine ⟨f, hgap, hw, hs, ?_, hl'.trans hl⟩
  simp only [hr, hi, Split.partChars, Frame.chars, List.append_assoc]

theorem parseFrom_part {fuel index : Nat} {gap : List Char} {f : Frame} {m : Message}
    {here after : Cursor} (hgap : Lacks [.start] gap) (hf : f.WellFormed) (hm : f.StandsFor m)
    (hr : here.rest = Split.partChars (gap, f) ++ after.rest) (hl : after.limit = here.limit) :
    parseFrom (fuel + 1) index here = (parseFrom fuel (index + 1) after).map (m :: ·) := by
  simp only [Split.partChars, Frame.chars, List.append_assoc] at hr
  obtain ⟨header, hh, ho⟩ : ∃ c : Cursor,
      c.rest = f.inner ++ after.rest ∧ c.limit = here.limit := by
    apply Cursor.exists_of_suffix
    refine ⟨gap ++ Token.start.chars, ?_⟩
    rw [hr, List.append_assoc]
  rw [← hh] at hr
  have hcut : here.cutAt? [.start] = some (gap, .start, header) :=
    Cursor.cutAt?_eq_some_iff.2 ⟨List.mem_singleton.2 rfl, hgap, hr, ho⟩
  have hread : readMessage index header = .ok (m, after) :=
    readMessage_eq_ok_iff.2 ⟨f, hf, hm, hh, hl.trans ho.symm⟩
  simp only [parseFrom, hcut, hread]
  cases parseFrom fuel (index + 1) after <;> rfl

/-- Messages are read exactly from the frames of a split of what is left. -/
theorem parseFrom_eq_ok_iff {fuel index : Nat} {here : Cursor} {ms : List Message}
    (hf : here.rest.length < fuel) :
    parseFrom fuel index here = .ok ms ↔
      ∃ s : Split, s.WellFormed ∧ s.StandsFor ms ∧ here.rest = s.chars := by
  induction fuel generalizing index here ms with
  | zero => exact absurd hf (Nat.not_lt_zero _)
  | succ fuel ih =>
      constructor
      · intro h
        rw [parseFrom] at h
        split at h
        · rename_i hcut
          cases h
          exact ⟨⟨[], here.rest⟩, ⟨nofun, Cursor.cutAt?_eq_none_iff.1 hcut⟩, .nil, rfl⟩
        · rename_i gap t header hcut
          split at h
          · cases h
          · rename_i m after hread
            obtain ⟨f, hgap, hw, hs, hr, _⟩ := exists_part_of_read hcut hread
            split at h
            · cases h
            · rename_i rest hrest
              cases h
              have hlt := Split.length_lt_of_part hr
              obtain ⟨⟨parts, tail⟩, hws, hss, hc⟩ := (ih (by omega)).1 hrest
              refine ⟨⟨(gap, f) :: parts, tail⟩, ⟨?_, hws.rest⟩, .cons hs hss, ?_⟩
              · exact List.forall_mem_cons.2 ⟨⟨hgap, hw⟩, hws.parts⟩
              · rw [Split.chars_cons_part, hr, hc]
      · rintro ⟨⟨parts, tail⟩, hw, hs, hr⟩
        cases hs with
        | nil =>
            rw [parseFrom, Cursor.cutAt?_eq_none_iff.2 (hr ▸ hw.rest)]
        | @cons part m parts ms hm hs =>
            obtain ⟨gap, f⟩ := part
            rw [Split.chars_cons_part] at hr
            obtain ⟨⟨hgap, hf'⟩, hparts⟩ := List.forall_mem_cons.1 hw.parts
            obtain ⟨after, ha, hl⟩ : ∃ c : Cursor,
                c.rest = Split.chars ⟨parts, tail⟩ ∧ c.limit = here.limit :=
              Cursor.exists_of_suffix ⟨_, hr.symm⟩
            rw [← ha] at hr
            have hlt := Split.length_lt_of_part hr
            have hrest : parseFrom fuel (index + 1) after = .ok ms :=
              (ih (by omega)).2 ⟨⟨parts, tail⟩, ⟨hparts, hw.rest⟩, hs, ha⟩
            rw [parseFrom_part hgap hf' hm hr hl, hrest]
            rfl

/-- A part that may be missing, and what follows it, are found in one way. -/
theorem leading_unique {u t t' : Token} {tokens : List Token} {part part' : Option (List Char)}
    {ys ys' : List Char} (hu : u ∉ tokens) (hp : ∀ p ∈ part, Lacks tokens p)
    (hp' : ∀ p ∈ part', Lacks tokens p) (ht : t ∈ tokens) (ht' : t' ∈ tokens)
    (h : u.leading part ++ (t.chars ++ ys) = u.leading part' ++ (t'.chars ++ ys')) :
    part = part' ∧ t = t' ∧ ys = ys' := by
  cases part with
  | none =>
      cases part' with
      | none => exact ⟨rfl, Token.chars_append_inj h⟩
      | some p' =>
          rw [Token.leading, Token.leading, List.nil_append, List.append_assoc] at h
          exact absurd ((Token.chars_append_inj h).1 ▸ ht) hu
  | some p =>
      cases part' with
      | none =>
          rw [Token.leading, Token.leading, List.nil_append, List.append_assoc] at h
          exact absurd ((Token.chars_append_inj h).1 ▸ ht') hu
      | some p' =>
          rw [Token.leading, Token.leading, List.append_assoc, List.append_assoc] at h
          obtain ⟨rfl, rfl, rfl⟩ :=
            cut_unique (hp p rfl) (hp' p' rfl) ht ht' (List.append_cancel_left h)
          exact ⟨rfl, rfl, rfl⟩

/-- What stands in front of a body is found in one way, whatever the bodies are. -/
theorem Frame.head_unique {f f' : Frame} (hf : f.HeadWellFormed) (hf' : f'.HeadWellFormed)
    {ys ys' : List Char} (h : f.inner ++ ys = f'.inner ++ ys') :
    f.role = f'.role ∧ f.header = f'.header ∧ f.contentType = f'.contentType ∧
      f.body ++ (f.closer.chars ++ ys) = f'.body ++ (f'.closer.chars ++ ys') := by
  obtain ⟨role, part, kind, body, closer⟩ := f
  obtain ⟨role', part', kind', body', closer'⟩ := f'
  simp only [inner, List.append_assoc] at h
  obtain ⟨next, zs, hn, hz⟩ := Token.exists_afterChannel kind (body ++ (closer.chars ++ ys))
  obtain ⟨next', zs', hn', hz'⟩ := Token.exists_afterChannel kind' (body' ++ (closer'.chars ++ ys'))
  obtain ⟨t, xs, ht, hx⟩ := Token.exists_afterRole part hn zs
  obtain ⟨t', xs', ht', hx'⟩ := Token.exists_afterRole part' hn' zs'
  rw [hz, hz', hx, hx'] at h
  obtain ⟨rfl, rfl, rfl⟩ := cut_unique hf.role hf'.role ht ht' h
  obtain ⟨rfl, rfl, rfl⟩ :=
    leading_unique (by decide) hf.header hf'.header hn hn' (hx.trans hx'.symm)
  have hm : Token.message ∈ Token.afterConstrain := List.mem_singleton.2 rfl
  obtain ⟨rfl, _, hb⟩ :=
    leading_unique (by decide) hf.contentType hf'.contentType hm hm (hz.trans hz'.symm)
  exact ⟨rfl, rfl, rfl, hb⟩

theorem Frame.inner_unique {f f' : Frame} (hf : f.WellFormed) (hf' : f'.WellFormed)
    {ys ys' : List Char} (h : f.inner ++ ys = f'.inner ++ ys') : f = f' ∧ ys = ys' := by
  obtain ⟨hrole, hpart, hkind, hb⟩ := head_unique hf.head hf'.head h
  obtain ⟨hbody, hcloser, hys⟩ := cut_unique hf.body hf'.body hf.closer hf'.closer hb
  obtain ⟨role, part, kind, body, closer⟩ := f
  cases f'
  cases hrole
  cases hpart
  cases hkind
  cases hbody
  cases hcloser
  exact ⟨rfl, hys⟩

theorem Split.ne_of_lacks {gap cs : List Char} {f : Frame} {parts : List (List Char × Frame)}
    {rest : List Char} (h : Lacks [.start] cs) : cs ≠ chars ⟨(gap, f) :: parts, rest⟩ := by
  rintro rfl
  rw [chars_cons] at h
  exact h .start List.mem_cons_self (List.infix_append' _ _ _)

/-- A text is split in one way at most. -/
theorem Split.eq_of_chars_eq {s s' : Split} (hs : s.WellFormed) (hs' : s'.WellFormed)
    (h : s.chars = s'.chars) : s = s' := by
  obtain ⟨parts, rest⟩ := s
  induction parts generalizing s' with
  | nil =>
      obtain ⟨parts', rest'⟩ := s'
      cases parts' with
      | nil =>
          simp only [chars, List.flatMap_nil, List.nil_append] at h
          rw [h]
      | cons part' parts' => exact absurd h (ne_of_lacks hs.rest)
  | cons part parts ih =>
      obtain ⟨parts', rest'⟩ := s'
      obtain ⟨gap, f⟩ := part
      cases parts' with
      | nil => exact absurd h.symm (ne_of_lacks hs'.rest)
      | cons part' parts' =>
          obtain ⟨gap', f'⟩ := part'
          obtain ⟨⟨hgap, hf⟩, hparts⟩ := List.forall_mem_cons.1 hs.parts
          obtain ⟨⟨hgap', hf'⟩, hparts'⟩ := List.forall_mem_cons.1 hs'.parts
          rw [chars_cons, chars_cons] at h
          have hm : Token.start ∈ [Token.start] := List.mem_cons_self
          obtain ⟨rfl, _, hi⟩ := cut_unique hgap hgap' hm hm h
          obtain ⟨rfl, hc⟩ := Frame.inner_unique hf hf' hi
          have hw : WellFormed ⟨parts, rest⟩ := ⟨hparts, hs.rest⟩
          have hw' : WellFormed ⟨parts', rest'⟩ := ⟨hparts', hs'.rest⟩
          cases ih hw' hw hc
          rfl

theorem parse_eq_ok_iff {text : String} {ms : List Message} :
    parse text = .ok ms ↔ ∃ s : Split, s.WellFormed ∧ s.StandsFor ms ∧ text.toList = s.chars :=
  parseFrom_eq_ok_iff (Nat.lt_succ_self _)

/-- Parsing accepts exactly the texts that split into frames standing for messages, and gives these
messages; and a text has no second split, also when it is not accepted. -/
theorem parse_accepts_exactly_splits (text : String) :
    (∀ ms, parse text = .ok ms ↔
      ∃ s : Split, text.toList = s.chars ∧ s.WellFormed ∧ s.StandsFor ms) ∧
    ∀ s s' : Split, text.toList = s.chars → s.WellFormed → text.toList = s'.chars →
      s'.WellFormed → s = s' := by
  constructor
  · intro ms
    rw [parse_eq_ok_iff]
    constructor
    · rintro ⟨s, hw, hs, hc⟩
      exact ⟨s, hc, hw, hs⟩
    · rintro ⟨s, hc, hw, hs⟩
      exact ⟨s, hw, hs, hc⟩
  · intro s s' hc hw hc' hw'
    exact Split.eq_of_chars_eq hw hw' (hc.symm.trans hc')

/-- A question whose role holds a terminator, a call with a header and JSON, and an answer. -/
def conversing : Split where
  parts :=
    [("a".toList, ⟨"user<|end|>x".toList, none, none, "hi".toList, .finish⟩),
      ("b".toList, ⟨"assistant".toList, some "Commentary to=old to=math.sum".toList,
        some " JSON ".toList, "[1]".toList, .call⟩),
      ([], ⟨"assistant".toList, none, none, "3".toList, .answer⟩)]
  rest := "c".toList

theorem conversing_wellFormed : conversing.WellFormed := by
  have hshows {role : List Char} (h : role.all Text.isBlank = false) :
      ¬ ∀ c ∈ role, Text.isBlank c = true := by
    rw [← List.all_eq_true, h]
    exact Bool.false_ne_true
  refine ⟨List.forall_mem_cons.2 ⟨⟨by decide, ?_⟩, List.forall_mem_cons.2 ⟨⟨by decide, ?_⟩,
    List.forall_mem_singleton.2 ⟨by decide, ?_⟩⟩⟩, by decide⟩
  · exact ⟨by decide, hshows (by decide), nofun, nofun, by decide, by decide⟩
  · refine ⟨by decide, hshows (by decide), ?_, ?_, by decide, by decide⟩
    · rintro part ⟨⟩
      decide
    · rintro part ⟨⟩
      decide
  · exact ⟨by decide, hshows (by decide), nofun, nofun, by decide, by decide⟩

/-- A role may hold a terminator, each terminator says how the turn ended, and what stands around
the messages is passed over; the text is split in no other way. -/
theorem parse_accepts_every_terminator :
    let text := "a<|start|>user<|end|>x<|message|>hi<|end|>" ++
      "b<|start|>assistant<|channel|>Commentary to=old to=math.sum" ++
      "<|constrain|> JSON <|message|>[1]<|call|>" ++
      "<|start|>assistant<|message|>3<|return|>c"
    parse text = .ok
        [{ role := "user<|end|>x", content := .str "hi", termination := some .ended },
          { role := "assistant", channel := some .commentary, recipient := some "math.sum",
            contentType := some "JSON", content := .arr [.num (.whole ⟨1, by decide⟩)],
            termination := some .called },
          { role := "assistant", content := .str "3", termination := some .returned }] ∧
      ∀ s : Split, text.toList = s.chars → s.WellFormed → s = conversing := by
  intro text
  have hchars : text.toList = conversing.chars := by
    simp only [text, String.toList_append]
    decide +kernel
  have hjson : "JSON".toLower = "json" := by decide +kernel
  have hs : conversing.StandsFor
      [{ role := "user<|end|>x", content := .str "hi", termination := some .ended },
        { role := "assistant", channel := some .commentary, recipient := some "math.sum",
          contentType := some "JSON", content := .arr [.num (.whole ⟨1, by decide⟩)],
          termination := some .called },
        { role := "assistant", content := .str "3", termination := some .returned }] := by
    refine .cons ?_ (.cons ?_ (.cons ?_ .nil))
    · exact ⟨by decide, rfl, rfl, (if_neg (by decide)).mpr (by decide), .finish⟩
    · refine ⟨by decide, ?_, by decide, ?_, .call⟩
      · have hnames : Header.Names "Commentary".toList .commentary :=
          Text.sameIgnoringAsciiCase_iff.2 (by decide)
        exact ⟨.some hnames, by decide⟩
      · have hread : Json.ofChars "[1]".toList = .ok (.arr [.num (.whole ⟨1, by decide⟩)]) :=
          toOption_eq_some_iff.1 (by decide +kernel)
        exact (if_pos (by rw [Message.isStructured, Option.any_some, hjson]; rfl)).mpr hread
    · exact ⟨by decide, rfl, rfl, (if_neg (by decide)).mpr (by decide), .answer⟩
  obtain ⟨haccepts, hunique⟩ := parse_accepts_exactly_splits text
  refine ⟨(haccepts _).2 ⟨conversing, hchars, conversing_wellFormed, hs⟩, ?_⟩
  intro s hc hws
  exact hunique s conversing hc hws hchars conversing_wellFormed

end Wire

end Dialogue
