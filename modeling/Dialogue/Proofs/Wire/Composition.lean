import Dialogue.Proofs.Text.Slice
import Dialogue.Proofs.Wire.Grammar

/-!
# Text behind text

Text that is put behind a text changes none of the messages that were read from it, and is itself
read as it would be read alone, provided that no `<|start|>` comes about where the two meet. None
does if the first text ends with a terminator or the second begins with `<|start|>`. An error in the
second text is then the error of the whole, with the messages and bytes in front of it counted.
-/
namespace Dialogue.Wire

/-- The error in a text that has so many messages and bytes in front of it. -/
def FormatError.moved (messages bytes : Nat) : FormatError → FormatError
  | missingRole index offset => .missingRole (messages + index) (bytes + offset)
  | headerWithoutMessage index offset => .headerWithoutMessage (messages + index) (bytes + offset)
  | unknownChannel index offset name => .unknownChannel (messages + index) (bytes + offset) name
  | missingTerminator index offset => .missingTerminator (messages + index) (bytes + offset)
  | invalidJson index contentType reason => .invalidJson (messages + index) contentType reason

def Cursor.moved (bytes : Nat) (here : Cursor) : Cursor :=
  { here with offset := bytes + here.offset }

section
variable (n k : Nat)

theorem Cursor.cutAt?_moved (tokens : List Token) (here : Cursor) :
    (here.moved k).cutAt? tokens =
      (here.cutAt? tokens).map fun cut => (cut.1, cut.2.1, cut.2.2.moved k) := by
  simp only [cutAt?, moved, Option.map_map, Function.comp_def, Nat.add_assoc]

theorem readHeader_moved (missing : FormatError) (index : Nat) (t : Token) (here : Cursor) :
    readHeader (missing.moved n k) (n + index) t (here.moved k) =
      ((readHeader missing index t here).mapError (·.moved n k)).map
        fun r => (r.1, r.2.1, r.2.2.moved k) := by
  unfold readHeader
  rw [Cursor.cutAt?_moved]
  split
  · cases here.cutAt? Token.afterChannel with
    | none => rfl
    | some cut =>
        dsimp only [Option.map_some]
        cases Header.readWords {} (Text.words cut.1) <;> rfl
  · rfl

theorem readContentType_moved (missing : FormatError) (t : Token) (here : Cursor) :
    readContentType (missing.moved n k) t (here.moved k) =
      ((readContentType missing t here).mapError (·.moved n k)).map
        fun r => (r.1, r.2.moved k) := by
  unfold readContentType
  rw [Cursor.cutAt?_moved]
  split
  · cases here.cutAt? Token.afterConstrain <;> rfl
  · rfl

theorem readContent_moved (index : Nat) (contentType : Option String) (raw : List Char) :
    readContent (n + index) contentType raw =
      (readContent index contentType raw).mapError (·.moved n k) := by
  unfold readContent
  cases contentType with
  | none => rfl
  | some type =>
      dsimp only
      split
      · cases Json.ofChars raw <;> rfl
      · rfl

theorem readMessage_moved (index : Nat) (here : Cursor) :
    readMessage (n + index) (here.moved k) =
      ((readMessage index here).mapError (·.moved n k)).map fun r => (r.1, r.2.moved k) := by
  have hmissing : FormatError.headerWithoutMessage (n + index) (here.moved k).offset =
      (FormatError.headerWithoutMessage index here.offset).moved n k := rfl
  unfold readMessage
  dsimp only
  rw [Cursor.cutAt?_moved, hmissing]
  cases here.cutAt? Token.afterRole with
  | none => rfl
  | some cut =>
      obtain ⟨role, t, here₁⟩ := cut
      dsimp only [Option.map_some]
      split
      · rfl
      · rw [readHeader_moved]
        cases readHeader (.headerWithoutMessage index here.offset) index t here₁ with
        | error e => rfl
        | ok header =>
            obtain ⟨header, next, here₂⟩ := header
            simp only [Except.mapError, Except.map, bind, Except.bind]
            rw [readContentType_moved]
            cases readContentType (.headerWithoutMessage index here.offset) next here₂ with
            | error e => rfl
            | ok kind =>
                obtain ⟨kind, here₃⟩ := kind
                simp only [Except.mapError, Except.map]
                rw [Cursor.cutAt?_moved]
                cases here₃.cutAt? Token.terminators with
                | none => rfl
                | some cut =>
                    obtain ⟨body, closer, here₄⟩ := cut
                    dsimp only [Option.map_some]
                    rw [readContent_moved n k]
                    cases readContent index kind body <;> rfl

/-- What is read depends on numbers and places in front only in so far as errors tell them. -/
theorem parseFrom_moved (fuel index : Nat) (here : Cursor) :
    parseFrom fuel (n + index) (here.moved k) =
      (parseFrom fuel index here).mapError (·.moved n k) := by
  induction fuel generalizing index here with
  | zero => rfl
  | succ fuel ih =>
      rw [parseFrom, parseFrom, Cursor.cutAt?_moved]
      cases here.cutAt? [.start] with
      | none => rfl
      | some cut =>
          dsimp only [Option.map_some]
          rw [readMessage_moved]
          cases readMessage index cut.2.2 with
          | error e => rfl
          | ok r =>
              simp only [Except.mapError, Except.map]
              rw [Nat.add_assoc, ih]
              cases parseFrom fuel (index + 1) r.2 <;> rfl

end

theorem parseFrom_eq_of_lt {fuel fuel' index : Nat} {here : Cursor}
    (h : here.rest.length < fuel) (h' : here.rest.length < fuel') :
    parseFrom fuel index here = parseFrom fuel' index here := by
  induction fuel generalizing fuel' index here with
  | zero => exact absurd h (Nat.not_lt_zero _)
  | succ fuel ih =>
      cases fuel' with
      | zero => exact absurd h' (Nat.not_lt_zero _)
      | succ fuel' =>
          rw [parseFrom, parseFrom]
          cases hcut : here.cutAt? [.start] with
          | none => rfl
          | some cut =>
              dsimp only
              cases hread : readMessage index cut.2.2 with
              | error e => rfl
              | ok r =>
                  obtain ⟨f, _, _, _, hr, _⟩ := exists_part_of_read hcut hread
                  have hlt := Split.length_lt_of_part hr
                  have hrest : parseFrom fuel (index + 1) r.2 = parseFrom fuel' (index + 1) r.2 :=
                    ih (by omega) (by omega)
                  dsimp only
                  rw [hrest]

theorem parseFrom_parts {parts : List (List Char × Frame)} {ms : List Message}
    (hparts : ∀ part ∈ parts, Lacks [.start] part.1 ∧ part.2.WellFormed)
    (hs : List.Forall₂ (fun part m => part.2.StandsFor m) parts ms) {fuel index : Nat}
    {here last : Cursor} (hr : here.rest = parts.flatMap Split.partChars ++ last.rest)
    (hl : last.limit = here.limit) (hf : here.rest.length < fuel) :
    parseFrom fuel index here = (parseFrom fuel (index + ms.length) last).map (ms ++ ·) := by
  induction hs generalizing fuel index here with
  | nil =>
      have heq : here = last :=
        (Cursor.eq_of_chars_append (t := .start) (congrArg (Token.start.chars ++ ·) hr) hl).2
      rw [heq]
      cases parseFrom fuel index last <;> rfl
  | @cons part m parts ms hm _ ih =>
      obtain ⟨gap, f⟩ := part
      obtain ⟨⟨hgap, hw⟩, hparts⟩ := List.forall_mem_cons.1 hparts
      rw [List.flatMap_cons, List.append_assoc] at hr
      obtain ⟨after, ha, hal⟩ : ∃ c : Cursor,
          c.rest = parts.flatMap Split.partChars ++ last.rest ∧ c.limit = here.limit :=
        Cursor.exists_of_suffix ⟨_, hr.symm⟩
      have hpart : here.rest = Split.partChars (gap, f) ++ after.rest := by rw [hr, ha]
      have hlt := Split.length_lt_of_part hpart
      have hlast : last.rest.length ≤ after.rest.length := by
        rw [ha, List.length_append]
        exact Nat.le_add_left _ _
      cases fuel with
      | zero => exact absurd hf (Nat.not_lt_zero _)
      | succ fuel =>
          have hfuel : parseFrom fuel (index + 1 + ms.length) last =
              parseFrom (fuel + 1) (index + (ms.length + 1)) last := by
            rw [Nat.add_assoc, Nat.add_comm 1]
            exact parseFrom_eq_of_lt (by omega) (by omega)
          rw [parseFrom_part hgap hw hm hpart hal, ih hparts ha (hl.trans hal.symm) (by omega),
            List.length_cons, hfuel]
          cases parseFrom (fuel + 1) (index + (ms.length + 1)) last <;> rfl

/-- Text without `<|start|>` is passed over if none comes about behind it. -/
theorem parseFrom_gap {fuel index : Nat} {gap : List Char} {here last : Cursor}
    (hgap : Lacks [.start] gap) (hr : here.rest = gap ++ last.rest) (hl : last.limit = here.limit)
    (h : Meet gap last.rest) :
    parseFrom (fuel + 1) index here = parseFrom (fuel + 1) index last := by
  rw [parseFrom, parseFrom]
  cases hcut : last.cutAt? [.start] with
  | none =>
      have hlacks : Lacks [.start] here.rest :=
        hr ▸ hgap.append (Cursor.cutAt?_eq_none_iff.1 hcut) h
      rw [Cursor.cutAt?_eq_none_iff.2 hlacks]
  | some cut =>
      obtain ⟨before, t, header⟩ := cut
      obtain ⟨ht, hbefore, hr', hl'⟩ := Cursor.cutAt?_eq_some_iff.1 hcut
      rw [hr'] at h
      have hcut' : here.cutAt? [.start] = some (gap ++ before, t, header) := by
        apply Cursor.cutAt?_eq_some_iff.2
        refine ⟨ht, hgap.append hbefore h.of_append_right, ?_, hl'.trans hl⟩
        rw [hr, hr', List.append_assoc]
      rw [hcut']

/-- What is read from a text and from what is put behind it, if the two meet without a token. -/
theorem parse_append_of_meet {a b : String} {ms : List Message} (ha : parse a = .ok ms)
    (h : Meet a.toList b.toList) :
    parse (a ++ b) =
      ((parse b).mapError (·.moved ms.length (Text.byteLength a.toList))).map (ms ++ ·) := by
  obtain ⟨⟨parts, gap⟩, hw, hs, hc⟩ := parse_eq_ok_iff.1 ha
  obtain ⟨body, hbody⟩ : ∃ body, body = parts.flatMap Split.partChars := ⟨_, rfl⟩
  have htext : a.toList = body ++ gap := by rw [hc, Split.chars, hbody]
  have hbytes : Text.byteLength a.toList = Text.byteLength body + Text.byteLength gap := by
    rw [htext, Text.byteLength_append]
  -- Where the whole text begins, where the last message of `a` ends, and where `b` begins.
  let here : Cursor := ⟨(a ++ b).toList, 0⟩
  let middle : Cursor := ⟨gap ++ b.toList, Text.byteLength body⟩
  let last : Cursor := ⟨b.toList, Text.byteLength a.toList⟩
  have hmiddle : here.rest = body ++ middle.rest := by
    simp only [here, middle, String.toList_append, htext, List.append_assoc]
  have hml : middle.limit = here.limit := by
    simp only [Cursor.limit, hmiddle, Text.byteLength_append]
    exact (Nat.zero_add _).symm
  have hll : last.limit = middle.limit := by
    simp only [Cursor.limit, last, middle, hbytes, Text.byteLength_append, Nat.add_assoc]
  have hlt : last.rest.length < here.rest.length + 1 := by
    simp only [here, last, String.toList_append, List.length_append]
    omega
  have hparts : parseFrom (here.rest.length + 1) 0 here =
      (parseFrom (here.rest.length + 1) (0 + ms.length) middle).map (ms ++ ·) :=
    parseFrom_parts hw.parts hs (hbody ▸ hmiddle) hml (Nat.lt_succ_self _)
  have hgap : parseFrom (here.rest.length + 1) (0 + ms.length) middle =
      parseFrom (here.rest.length + 1) (0 + ms.length) last :=
    parseFrom_gap hw.rest rfl hll (htext ▸ h).of_append_left
  have hfuel : parseFrom (here.rest.length + 1) (0 + ms.length) last =
      parseFrom (b.toList.length + 1) (0 + ms.length) last :=
    parseFrom_eq_of_lt hlt (Nat.lt_succ_self _)
  have hmoved := parseFrom_moved ms.length (Text.byteLength a.toList) (b.toList.length + 1) 0
    ⟨b.toList, 0⟩
  rw [hgap, hfuel, Nat.zero_add] at hparts
  rw [parse, parse, parseChars, parseChars, ← hmoved]
  exact hparts

/-- Texts are read one by one if the first ends with a terminator or the second begins with
`<|start|>`: the messages of the whole are those of the first and then those of the second, or the
error of the second, where only the number of the message and the place, if it tells one, count
what is in the first. -/
theorem parse_append {a b : String} {ms : List Message} (ha : parse a = .ok ms)
    (h : (∃ t ∈ Token.terminators, t.chars <:+ a.toList) ∨ Token.start.chars <+: b.toList) :
    (∀ ns, parse b = .ok ns → parse (a ++ b) = .ok (ms ++ ns)) ∧
      ∀ e, parse b = .error e →
        parse (a ++ b) = .error (e.moved ms.length a.utf8ByteSize) := by
  have hmeet : Meet a.toList b.toList := by
    rcases h with ⟨t, _, ht⟩ | hstart
    · exact meet_of_ends ht _
    · exact meet_of_begins hstart _
  have happend := parse_append_of_meet ha hmeet
  rw [Text.byteLength_toList] at happend
  constructor
  · intro ns hb
    rw [happend, hb]
    rfl
  · intro e hb
    rw [happend, hb]
    rfl

/-- Two messages, with a character of two bytes. -/
def complete : String := "<|start|>a<|message|>é<|end|> <|start|>b<|message|>c<|call|>"

def unfinished : String := "-<|start|>d<|message|>e<|start|>"

/-- The unfinished message is the third of the whole, and its body begins that much later. -/
theorem parse_append_unfinished :
    parse complete =
        .ok [{ role := "a", content := .str "é", termination := some .ended },
          { role := "b", content := .str "c", termination := some .called }] ∧
      parse unfinished = .error (.missingTerminator 0 22) ∧
      parse (complete ++ unfinished) = .error (.missingTerminator 2 83) := by
  have ha : parse complete =
      .ok [{ role := "a", content := .str "é", termination := some .ended },
        { role := "b", content := .str "c", termination := some .called }] := by
    rw [← toOption_eq_some_iff]
    decide +kernel
  have hb : parse unfinished = .error (.missingTerminator 0 22) := by rfl
  have hends : ∃ t ∈ Token.terminators, t.chars <:+ complete.toList :=
    ⟨.call, by decide, by decide⟩
  exact ⟨ha, hb, (parse_append ha (.inl hends)).2 _ hb⟩

end Dialogue.Wire
