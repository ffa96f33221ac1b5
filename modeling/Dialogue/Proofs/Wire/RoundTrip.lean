import Dialogue.Proofs.Json.RoundTrip
import Dialogue.Proofs.Wire.Framing
import Mathlib.Data.List.Forall2

/-!
# Reading back what was written

Messages that are written and read back are the same messages, each with an ending, exactly when
every one of them is framed: its head can be told apart, and its content can be told from the
terminator behind it. What goes wrong otherwise is decided by the first terminator in the text of
the content, since the text up to it is what is read.

JSON content is written from the kind of the value alone, strings without quotes and null as
nothing. Such content does not come back under a type that says it is JSON, and neither does a
terminator inside a string of it, or a float that is not read back from its text.
-/
namespace Dialogue

open Wire in
/-- The value can be the content of a message whose content is JSON. -/
structure Json.Embeds (j : Json) : Prop where
  not_string : j.isString = false
  not_null : j ≠ .null
  depth : j.depth ≤ Json.maxDepth
  lacks : Lacks Token.terminators j.chars

namespace Message

open Wire in
/-- The content can be written under the content type. -/
def ContentFramed (m : Message) : Prop :=
  if m.isStructured then m.content.Embeds
  else ∃ s, m.content = .str s ∧ Lacks Token.terminators s.toList

/-- The message can be told from what stands around it when it is written. -/
structure Framed (m : Message) : Prop extends HeadFramed m where
  content : m.ContentFramed

def NumbersLegible (m : Message) : Prop :=
  m.isStructured = true → ∀ n ∈ m.content.numbers, Json.Legible n

end Message

namespace Wire

theorem contentChars_eq_chars {j : Json} (hs : j.isString = false) (hn : j ≠ .null) :
    contentChars j = j.chars := by
  cases j with
  | null => exact absurd rfl hn
  | str s => cases hs
  | _ => rfl

section
variable {m : Message}

theorem lacks_contentChars (h : m.ContentFramed) :
    Lacks Token.terminators (contentChars m.content) := by
  unfold Message.ContentFramed at h
  split at h
  · rw [contentChars_eq_chars h.not_string h.not_null]
    exact h.lacks
  · obtain ⟨s, hs, hl⟩ := h
    rw [hs]
    exact hl

theorem bodyWrites_contentChars (hs : m.content.Sorted) (h : m.ContentFramed)
    (hn : m.NumbersLegible) :
    Frame.BodyWrites (contentChars m.content) m.isStructured m.content := by
  unfold Message.ContentFramed at h
  unfold Frame.BodyWrites
  split at h
  · rename_i hj
    rw [if_pos hj, contentChars_eq_chars h.not_string h.not_null, Json.ofChars_chars_iff hs]
    exact ⟨h.depth, hn hj⟩
  · rename_i hj
    obtain ⟨s, hs, _⟩ := h
    rw [if_neg hj, hs, contentChars, String.ofList_toList]

/-- JSON that reads as a value and begins like the text that is written for it is all of that
text. -/
theorem contentChars_eq_of_ofChars {j : Json} {body : List Char} (h : Json.ofChars body = .ok j)
    (hc : contentChars j = body ∨ ∃ more, contentChars j = body ++ '<' :: more) :
    j.isString = false ∧ j ≠ .null ∧ contentChars j = body := by
  have hlen : body.length ≤ (contentChars j).length := by
    rcases hc with hc | ⟨more, hc⟩
    · rw [hc]
    · rw [hc, List.length_append]
      omega
  have hs : j.isString = false := by
    cases j with
    | str s =>
        have hlt := Json.length_lt_of_ofChars h
        rw [contentChars] at hlen
        omega
    | _ => rfl
  have hn : j ≠ .null := by
    rintro rfl
    have hb : body = [] := List.length_eq_zero_iff.1 (Nat.le_zero.1 hlen)
    rw [hb] at h
    exact Json.ofChars_nil _ h
  refine ⟨hs, hn, ?_⟩
  rcases hc with hc | ⟨more, hc⟩
  · exact hc
  · rw [contentChars_eq_chars hs hn] at hc
    exact absurd h (Json.ofChars_ne_of_chars_eq_append (Json.depth_le_of_ofChars h) hc
      (Json.stops_cons (by decide) more) (List.cons_ne_nil _ _) j)

/-- A body that is read as the content, and stands in the text where the content was written, is
what was written; and then the content is framed. -/
theorem contentFramed_of_body {body ys ys' : List Char} {t t' : Token}
    (hl : Lacks Token.terminators body) (hb : Frame.BodyWrites body m.isStructured m.content)
    (ht' : t' ∈ Token.terminators)
    (h : body ++ (t.chars ++ ys) = contentChars m.content ++ (t'.chars ++ ys')) :
    contentChars m.content = body ∧ m.ContentFramed ∧ m.NumbersLegible := by
  have hcut := eq_or_cut_of_append_eq hl ht' h
  unfold Frame.BodyWrites at hb
  unfold Message.ContentFramed Message.NumbersLegible
  split at hb
  · rename_i hj
    obtain ⟨hs, hn, hc⟩ := contentChars_eq_of_ofChars hb hcut
    have hchars : m.content.chars = body := (contentChars_eq_chars hs hn).symm.trans hc
    have hread := (Json.ofChars_chars_iff (Json.sorted_of_ofChars hb)).1 (hchars.symm ▸ hb)
    rw [if_pos hj]
    exact ⟨hc, ⟨hs, hn, hread.1, hchars.symm ▸ hl⟩, fun _ => hread.2⟩
  · rename_i hj
    have hc : contentChars m.content = body := by rw [hb, contentChars, String.toList_ofList]
    rw [if_neg hj]
    refine ⟨hc, ⟨String.ofList body, hb, ?_⟩, fun ht => absurd ht hj⟩
    rwa [String.toList_ofList]

end

theorem closes_terminator (t : Option Termination) :
    (terminator t).Closes (some (t.getD .ended)) := by
  cases t with
  | none => exact .finish
  | some t =>
      cases t with
      | ended => exact .finish
      | called => exact .call
      | returned => exact .answer

theorem terminator_mem (t : Option Termination) : terminator t ∈ Token.terminators := by
  cases t with
  | none => decide
  | some t => cases t <;> decide

theorem wellFormed_frameOf {m : Message} (h : m.trimmed.Framed) : (frameOf m).WellFormed := by
  have hh := headWellFormed_frameOf h.toHeadFramed
  exact ⟨hh.role, role_frameOf_shows h.toHeadFramed, hh.header, hh.contentType,
    lacks_contentChars h.content, terminator_mem m.termination⟩

theorem standsFor_frameOf {m : Message} (hs : m.content.Sorted) (h : m.trimmed.Framed)
    (hn : m.NumbersLegible) : (frameOf m).StandsFor m.trimmed.settled := by
  constructor
  · rfl
  · exact headerSays_frameOf h.toHeadFramed
  · have htype := contentType_frameOf h.toHeadFramed
    exact htype
  · exact bodyWrites_contentChars hs h.content hn
  · exact closes_terminator m.termination

theorem headFramed_of_unended {n m : Message} (he : n.unended = m.unended) (h : n.HeadFramed) :
    m.HeadFramed := by
  have h' : n.unended.HeadFramed :=
    ⟨h.role_ne, h.role_trimmed, h.role_lacks, h.recipient, h.contentType⟩
  rw [he] at h'
  exact ⟨h'.role_ne, h'.role_trimmed, h'.role_lacks, h'.recipient, h'.contentType⟩

theorem bodyWrites_of_unended {n m : Message} (he : n.unended = m.unended) {body : List Char}
    (h : Frame.BodyWrites body n.isStructured n.content) :
    Frame.BodyWrites body m.isStructured m.content := by
  have h' : Frame.BodyWrites body n.unended.isStructured n.unended.content := h
  rw [he] at h'
  exact h'

/-- If the text that is written for messages is split into frames that stand for messages like them,
but for endings and for blanks around roles, the messages are framed. The first frame begins where
the first message was written, and ends where it does. -/
theorem framed_of_split {ms ns : List Message} {s : Split} (hw : s.WellFormed)
    (hs : s.StandsFor ns) (he : ns.map Message.unended = ms.map fun m => m.trimmed.unended)
    (h : s.chars = (splitOf ms).chars) : ∀ m ∈ ms, m.trimmed.Framed ∧ m.NumbersLegible := by
  induction ms generalizing s ns with
  | nil => nofun
  | cons m ms ih =>
      obtain ⟨n, ns, rfl, hn, hns⟩ := List.map_eq_cons_iff.1 he
      obtain ⟨parts, rest⟩ := s
      cases hs with
      | @cons part _ parts _ hm hs =>
          obtain ⟨gap, f⟩ := part
          obtain ⟨⟨hgap, hf⟩, hparts⟩ := List.forall_mem_cons.1 hw.parts
          have hhead : m.trimmed.HeadFramed :=
            headFramed_of_unended hn (headFramed_of_standsFor hf hm)
          have hsplit : (splitOf (m :: ms)).chars =
              [] ++ (Token.start.chars ++ ((frameOf m).inner ++ (splitOf ms).chars)) :=
            Split.chars_cons [] (frameOf m) _ _
          rw [Split.chars_cons, hsplit] at h
          -- What is written begins with a token, so no text stands in front of the first frame.
          have hstart : Token.start ∈ [Token.start] := List.mem_cons_self
          obtain ⟨_, _, hinner⟩ := cut_unique hgap (lacks_nil _) hstart hstart h
          obtain ⟨_, _, _, hbody⟩ :=
            Frame.head_unique hf.head (headWellFormed_frameOf hhead) hinner
          -- The heads agree; the bodies do because the one that was read ends at a terminator.
          obtain ⟨_, hcontent, hnumbers⟩ := contentFramed_of_body hf.body
            (bodyWrites_of_unended hn hm.body) (terminator_mem m.termination) hbody
          have hframed : m.trimmed.Framed := ⟨hhead, hcontent⟩
          obtain ⟨_, hrest⟩ := Frame.inner_unique hf (wellFormed_frameOf hframed) hinner
          have hw' : Split.WellFormed ⟨parts, rest⟩ := ⟨hparts, hw.rest⟩
          intro m' hm'
          rcases List.mem_cons.mp hm' with rfl | hm'
          · exact ⟨hframed, hnumbers⟩
          · exact ih hw' hs hns hrest m' hm'

theorem framed_of_parse_render {ms ns : List Message} (h : parse (render ms) = .ok ns)
    (he : ns.map Message.unended = ms.map fun m => m.trimmed.unended) :
    ∀ m ∈ ms, m.trimmed.Framed ∧ m.NumbersLegible := by
  rw [parse_eq_ok_iff, toList_render] at h
  obtain ⟨s, hw, hst, hc⟩ := h
  exact framed_of_split hw hst he hc.symm

theorem parse_render_of_framed {ms : List Message} (hs : ∀ m ∈ ms, m.content.Sorted)
    (h : ∀ m ∈ ms, m.trimmed.Framed ∧ m.NumbersLegible) :
    parse (render ms) = .ok (ms.map fun m => m.trimmed.settled) := by
  rw [parse_eq_ok_iff, toList_render]
  refine ⟨splitOf ms, ⟨?_, lacks_nil _⟩, ?_, rfl⟩
  · intro part hp
    obtain ⟨m, hm, rfl⟩ := List.mem_map.1 hp
    exact ⟨lacks_nil _, wellFormed_frameOf (h m hm).1⟩
  · rw [Split.StandsFor, splitOf, List.forall₂_map_left_iff, List.forall₂_map_right_iff,
      List.forall₂_same]
    intro m hm
    exact standsFor_frameOf (hs m hm) (h m hm).1 (h m hm).2

theorem exists_frame {ms : List Message} {s : Split} (hw : s.WellFormed) (hs : s.StandsFor ms) :
    ∀ m ∈ ms, ∃ f : Frame, f.WellFormed ∧ f.StandsFor m := by
  obtain ⟨parts, rest⟩ := s
  have hparts := hw.parts
  unfold Split.StandsFor at hs
  dsimp only at hparts hs
  induction hs with
  | nil => nofun
  | @cons part m parts ms hm hs ih =>
      obtain ⟨⟨_, hf⟩, hrest⟩ := List.forall_mem_cons.1 hparts
      intro m' hm'
      rcases List.mem_cons.mp hm' with rfl | hm'
      · exact ⟨part.2, hf, hm⟩
      · exact ih ⟨hrest, hw.rest⟩ hrest m' hm'

theorem role_trimmed_of_parse {text : String} {ms : List Message} (h : parse text = .ok ms) :
    ∀ m ∈ ms, Text.trim m.role.toList = m.role.toList := by
  obtain ⟨s, hw, hs, _⟩ := parse_eq_ok_iff.1 h
  intro m hm
  obtain ⟨f, hfw, hf⟩ := exists_frame hw hs m hm
  exact (headFramed_of_standsFor hfw hf).role_trimmed

/-- Messages come back, each with an ending, exactly when they are framed and their numbers are
legible. -/
theorem parse_render_eq_ok_iff {ms : List Message} (hs : ∀ m ∈ ms, m.content.Sorted) :
    parse (render ms) = .ok (ms.map Message.settled) ↔
      ∀ m ∈ ms, m.Framed ∧ m.NumbersLegible := by
  constructor
  · intro h
    have htrimmed : ∀ m ∈ ms, m.trimmed = m := fun m hm =>
      Message.trimmed_eq_self_iff.2
        (role_trimmed_of_parse h m.settled (List.mem_map_of_mem hm))
    have he : (ms.map Message.settled).map Message.unended =
        ms.map fun m => m.trimmed.unended := by
      rw [List.map_map]
      refine List.map_congr_left fun m hm => ?_
      rw [htrimmed m hm]
      rfl
    intro m hm
    have hframed := framed_of_parse_render h he m hm
    rwa [htrimmed m hm] at hframed
  · intro h
    have htrimmed : ∀ m ∈ ms, m.trimmed = m := fun m hm =>
      Message.trimmed_eq_self_iff.2 (h m hm).1.role_trimmed
    have hframed : ∀ m ∈ ms, m.trimmed.Framed ∧ m.NumbersLegible := by
      intro m hm
      rw [htrimmed m hm]
      exact h m hm
    rw [parse_render_of_framed hs hframed]
    congr 1
    refine List.map_congr_left fun m hm => ?_
    rw [htrimmed m hm]

/-- Messages whose JSON content holds no float come back, each with an ending, exactly when every
one of them is framed. Contents have their keys in order, as the maps of a JSON value do. -/
theorem parse_render_eq_ok_iff_framed {ms : List Message} (hs : ∀ m ∈ ms, m.content.Sorted)
    (hn : ∀ m ∈ ms, m.isStructured = true → ∀ n ∈ m.content.numbers, ∃ w, n = .whole w) :
    parse (render ms) = .ok (ms.map Message.settled) ↔ ∀ m ∈ ms, m.Framed := by
  rw [parse_render_eq_ok_iff hs]
  refine forall₂_congr fun m hm => and_iff_left ?_
  intro hj n hnum
  obtain ⟨w, rfl⟩ := hn m hm hj n hnum
  exact Json.legible_whole w

/-- A call with JSON content, and a text that holds tokens which do not end it. -/
def callTurns : List Message :=
  [{ role := "assistant", channel := some .commentary, recipient := some "functions.f",
      contentType := some "JSON", termination := some .called,
      content := .obj [("a", .arr [.num (.whole ⟨1, by decide⟩), .null]),
        ("b", .str "<|start|>")] },
    { role := "user<|end|>", content := .str "hi<|start|>" }]

theorem callTurns_framed : ∀ m ∈ callTurns, m.Framed := by
  have hj : ({ contentType := some "JSON" } : Message).isStructured = true := by
    decide +kernel
  refine List.forall_mem_cons.2 ⟨⟨⟨by decide, by decide, by decide, ?_, ?_⟩, ?_⟩,
    List.forall_mem_cons.2 ⟨⟨⟨by decide, by decide, by decide, nofun, nofun⟩, ?_⟩, nofun⟩⟩
  · rintro r ⟨⟩
    exact ⟨by decide, Text.forall_not_blank_iff.2 (by decide), by decide⟩
  · rintro type ⟨⟩
    decide
  · exact (if_pos hj).mpr ⟨rfl, nofun, by decide, by decide⟩
  · exact ⟨_, rfl, by decide⟩

/-- The call comes back as it was, the text with an ending. -/
theorem parse_render_callTurns :
    (∀ m ∈ callTurns, m.content.Sorted) ∧
      (∀ m ∈ callTurns, m.isStructured = true →
        ∀ n ∈ m.content.numbers, ∃ w, n = .whole w) ∧
      parse (render callTurns) = .ok (callTurns.map Message.settled) := by
  have hs : ∀ m ∈ callTurns, m.content.Sorted := by
    refine List.forall_mem_cons.2 ⟨⟨?_, ?_⟩, List.forall_mem_cons.2 ⟨trivial, nofun⟩⟩
    · show List.Pairwise _ _
      decide
    · simp [Json.SortedFields, Json.Sorted, Json.SortedItems]
  have hn : ∀ m ∈ callTurns, m.isStructured = true →
      ∀ n ∈ m.content.numbers, ∃ w, n = .whole w := by
    refine List.forall_mem_cons.2 ⟨?_, List.forall_mem_cons.2 ⟨?_, List.forall_mem_nil _⟩⟩
    · rintro _ n hmem
      obtain rfl : n = .whole ⟨1, by decide⟩ := by
        simpa [Json.numbers, Json.fieldNumbers, Json.itemNumbers] using hmem
      exact ⟨_, rfl⟩
    · exact fun h => absurd h (by decide)
  exact ⟨hs, hn, (parse_render_eq_ok_iff_framed hs hn).2 callTurns_framed⟩

theorem settled_of_standsFor {f : Frame} {m : Message} (h : f.StandsFor m) : m.settled = m := by
  obtain ⟨ending, hending⟩ := h.closer.exists_eq_some
  rw [Message.settled, hending, Option.getD_some, ← hending]

theorem sorted_of_bodyWrites {body : List Char} {structured : Bool} {content : Json}
    (h : Frame.BodyWrites body structured content) : content.Sorted := by
  unfold Frame.BodyWrites at h
  split at h
  · exact Json.sorted_of_ofChars h
  · rw [h]
    trivial

theorem sorted_of_parse {text : String} {ms : List Message} (h : parse text = .ok ms) :
    ∀ m ∈ ms, m.content.Sorted := by
  obtain ⟨s, hw, hs, _⟩ := parse_eq_ok_iff.1 h
  intro m hm
  obtain ⟨f, _, hf⟩ := exists_frame hw hs m hm
  exact sorted_of_bodyWrites hf.body

/-- A message that was read is framed unless its content is JSON that is a string or null, or has a
terminator in its text. -/
theorem framed_iff_of_standsFor {f : Frame} {m : Message} (hw : f.WellFormed)
    (hs : f.StandsFor m) :
    m.Framed ↔ (m.isStructured = true → m.content.isString = false ∧ m.content ≠ .null ∧
      Lacks Token.terminators m.content.chars) := by
  have hb := hs.body
  unfold Frame.BodyWrites at hb
  constructor
  · intro h hj
    have hc := h.content
    rw [Message.ContentFramed, if_pos hj] at hc
    exact ⟨hc.not_string, hc.not_null, hc.lacks⟩
  · intro h
    refine ⟨headFramed_of_standsFor hw hs, ?_⟩
    unfold Message.ContentFramed
    split
    · rename_i hj
      rw [if_pos hj] at hb
      obtain ⟨hstr, hnull, hl⟩ := h hj
      exact ⟨hstr, hnull, Json.depth_le_of_ofChars hb, hl⟩
    · rename_i hj
      rw [if_neg hj] at hb
      refine ⟨String.ofList f.body, hb, ?_⟩
      rw [String.toList_ofList]
      exact hw.body

/-- What was read comes back when it is written, exactly when all JSON content is neither a string
nor null, has no terminator in its text and no number that is not legible. -/
theorem parse_render_of_parse_iff {text : String} {ms : List Message} (h : parse text = .ok ms) :
    parse (render ms) = .ok ms ↔
      ∀ m ∈ ms, m.isStructured = true → m.content.isString = false ∧ m.content ≠ .null ∧
        Lacks Token.terminators m.content.chars ∧ ∀ n ∈ m.content.numbers, Json.Legible n := by
  obtain ⟨s, hw, hst, _⟩ := parse_eq_ok_iff.1 h
  have hframe := exists_frame hw hst
  have hsettled : ms.map Message.settled = ms := by
    conv_rhs => rw [← List.map_id ms]
    apply List.map_congr_left
    intro m hm
    obtain ⟨f, _, hf⟩ := hframe m hm
    exact settled_of_standsFor hf
  have hsorted : ∀ m ∈ ms, m.content.Sorted := by
    intro m hm
    obtain ⟨f, _, hf⟩ := hframe m hm
    exact sorted_of_bodyWrites hf.body
  have hiff := parse_render_eq_ok_iff hsorted
  rw [hsettled] at hiff
  rw [hiff]
  refine forall₂_congr fun m hm => ?_
  obtain ⟨f, hfw, hf⟩ := hframe m hm
  rw [framed_iff_of_standsFor hfw hf, Message.NumbersLegible, ← imp_and]
  simp only [and_assoc]

def quotedNumber : Message :=
  { role := "assistant", contentType := some "json", content := .str "1",
    termination := some .ended }

/-- A JSON string is read, but does not come back: it is written without its quotes. -/
theorem quotedNumber_not_restored :
    parse "<|start|>assistant<|constrain|>json<|message|>\"1\"<|end|>" = .ok [quotedNumber] ∧
      parse (render [quotedNumber]) ≠ .ok [quotedNumber] := by
  have hj : quotedNumber.isStructured = true := by
    decide +kernel
  let f : Frame := ⟨"assistant".toList, none, some "json".toList, "\"1\"".toList, .finish⟩
  have hshows : ¬ ∀ c ∈ f.role, Text.isBlank c = true := by
    rw [← List.all_eq_true]
    decide
  have hw : f.WellFormed := by
    refine ⟨by decide, hshows, nofun, ?_, by decide, by decide⟩
    rintro part ⟨⟩
    decide
  have hf : f.StandsFor quotedNumber :=
    ⟨by decide, rfl, by decide, (if_pos hj).mpr rfl, .finish⟩
  have hp : parse "<|start|>assistant<|constrain|>json<|message|>\"1\"<|end|>" =
      .ok [quotedNumber] := by
    refine parse_eq_ok_iff.2 ⟨⟨[([], f)], []⟩, ⟨?_, lacks_nil _⟩, .cons hf .nil, by decide⟩
    exact List.forall_mem_cons.2 ⟨⟨lacks_nil _, hw⟩, nofun⟩
  refine ⟨hp, fun h => ?_⟩
  have hnot := ((parse_render_of_parse_iff hp).1 h quotedNumber List.mem_cons_self hj).1
  cases hnot

end Wire

end Dialogue
