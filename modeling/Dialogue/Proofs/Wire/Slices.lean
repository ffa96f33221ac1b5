import Dialogue.Proofs.Text.Slice
import Dialogue.Proofs.Wire.Grammar

/-!
# Reading by slices

Running text can also be read by places alone: a search then takes the slice from a place to the end
of the text, and a part is the slice between two places. `parseSliced` reads in this way and gives
nothing at all once it takes a slice that is not there. It never does, and what it gives is what
`parse` gives.

The two ways of reading are compared step by step. Steps agree if they fail with the same error, or
if what they give is related; between steps a cursor stands for its place.
-/
namespace Dialogue.Wire

/-- Reading that can fail, and that gives nothing at all where a slice is not there. -/
abbrev Slicing := ExceptT FormatError Option

section
variable (text : List Char)

def slice (start stop : Nat) : Slicing (List Char) := liftM (Text.slice? text start stop)

/-- Where the leftmost of `tokens` begins from a place on, the token, and the place after it. -/
def search (tokens : List Token) (place : Nat) : Slicing (Option (Nat × Token × Nat)) := do
  let rest ← slice text place (Text.byteLength text)
  return (splitAtFirst? tokens rest).map fun cut =>
    let stop := place + Text.byteLength cut.before
    (stop, cut.token, stop + Text.byteLength cut.token.chars)

def sliceHeader (missing : FormatError) (index : Nat) (token : Token) (place : Nat) :
    Slicing (Header × Token × Nat) :=
  if token = .channel then do
    match ← search text Token.afterChannel place with
    | none => throw missing
    | some (stop, next, after) =>
        let before ← slice text place stop
        match Header.readWords {} (Text.words before) with
        | .error name => throw (.unknownChannel index place name)
        | .ok header => return (header, next, after)
  else return ({}, token, place)

def sliceContentType (missing : FormatError) (token : Token) (place : Nat) :
    Slicing (Option String × Nat) :=
  if token = .constrain then do
    match ← search text Token.afterConstrain place with
    | none => throw missing
    | some (stop, _, after) =>
        let before ← slice text place stop
        return (some (String.ofList (Text.trim before)), after)
  else return (none, place)

/-- The message that begins at a place, just after `<|start|>`, and the place after it. -/
def sliceMessage (index place : Nat) : Slicing (Message × Nat) := do
  let missing := FormatError.headerWithoutMessage index place
  match ← search text Token.afterRole place with
  | none => throw missing
  | some (stop, token, after) =>
      let before ← slice text place stop
      let role := Text.trim before
      if role.isEmpty then throw (.missingRole index place)
      else
        let (header, token, after) ← sliceHeader text missing index token after
        let (contentType, start) ← sliceContentType text missing token after
        match ← search text Token.terminators start with
        | none => throw (.missingTerminator index start)
        | some (stop, terminator, after) =>
            let raw ← slice text start stop
            let content ← readContent index contentType raw
            return (⟨String.ofList role, header.channel, header.recipient, contentType, content,
              some (terminationOf terminator)⟩, after)

def sliceFrom : (fuel index place : Nat) → Slicing (List Message)
  | 0, _, _ => return []
  | fuel + 1, index, place => do
      match ← search text [.start] place with
      | none => return []
      | some (_, _, header) =>
          let (m, after) ← sliceMessage text index header
          let rest ← sliceFrom fuel (index + 1) after
          return m :: rest

end

/-- The messages of a text, read by slices. -/
def parseSliced (text : String) : Option (Except FormatError (List Message)) :=
  (sliceFrom text.toList (text.toList.length + 1) 0 0).run

variable {α β γ δ : Type}

/-- Both steps fail with the same error, or both give something, and this is related. -/
inductive Agrees (R : α → β → Prop) : Slicing α → Except FormatError β → Prop
  | ok {a : α} {b : β} (h : R a b) : Agrees R (pure a) (.ok b)
  | error (e : FormatError) : Agrees R (throw e) (.error e)

theorem Agrees.bind {R : α → β → Prop} {S : γ → δ → Prop} {x : Slicing α}
    {y : Except FormatError β} {f : α → Slicing γ} {g : β → Except FormatError δ}
    (h : Agrees R x y) (hf : ∀ a b, R a b → Agrees S (f a) (g b)) :
    Agrees S (x >>= f) (y >>= g) := by
  cases h with
  | ok h => exact hf _ _ h
  | error e => exact .error e

theorem Agrees.eq_some {x : Slicing α} {y : Except FormatError α} (h : Agrees Eq x y) :
    x.run = some y := by
  cases h with
  | ok h => exact congrArg (some ∘ Except.ok) h
  | error e => rfl

theorem agrees_liftM (y : Except FormatError α) : Agrees Eq (liftM y) y := by
  cases y with
  | ok a => exact .ok rfl
  | error e => exact .error e

/-- The cursor stands in the text at its place. -/
def Cursor.StandsIn (text : List Char) (here : Cursor) : Prop :=
  ∃ before, text = before ++ here.rest ∧ Text.byteLength before = here.offset

section
variable {text : List Char} {here : Cursor}

theorem Cursor.StandsIn.advance {after : Cursor} {before : List Char} (h : here.StandsIn text)
    (hr : here.rest = before ++ after.rest) (hl : after.limit = here.limit) :
    after.StandsIn text := by
  obtain ⟨front, rfl, ho⟩ := h
  refine ⟨front ++ before, ?_, ?_⟩
  · rw [hr, List.append_assoc]
  · rw [Text.byteLength_append, ho, offset_eq hr hl]

theorem slice_eq {piece after : List Char} (h : here.StandsIn text)
    (hr : here.rest = piece ++ after) :
    slice text here.offset (here.offset + Text.byteLength piece) = pure piece := by
  obtain ⟨front, rfl, ho⟩ := h
  have hslice := Text.slice?_eq_some_iff.2 ⟨front, after, congrArg (front ++ ·) hr, ho, rfl⟩
  rw [slice, hslice]
  rfl

theorem search_eq (h : here.StandsIn text) (tokens : List Token) :
    search text tokens here.offset = pure ((here.cutAt? tokens).map fun cut =>
      (here.offset + Text.byteLength cut.1, cut.2.1, cut.2.2.offset)) := by
  have hend : here.offset + Text.byteLength here.rest = Text.byteLength text := by
    obtain ⟨front, rfl, ho⟩ := h
    rw [Text.byteLength_append, ho]
  have hrest := slice_eq h (List.append_nil here.rest).symm
  rw [search, ← hend, hrest, pure_bind, Cursor.cutAt?, Option.map_map]
  rfl

theorem slice_of_cutAt? {tokens : List Token} {before : List Char} {t : Token} {after : Cursor}
    (h : here.StandsIn text) (hcut : here.cutAt? tokens = some (before, t, after)) :
    slice text here.offset (here.offset + Text.byteLength before) = pure before ∧
      after.StandsIn text := by
  obtain ⟨_, _, hr, hl⟩ := Cursor.cutAt?_eq_some_iff.1 hcut
  have hrest : here.rest = (before ++ t.chars) ++ after.rest := by rw [hr, List.append_assoc]
  exact ⟨slice_eq h hr, h.advance hrest hl⟩

theorem agrees_sliceHeader (h : here.StandsIn text) (missing : FormatError) (index : Nat)
    (t : Token) :
    Agrees (fun a b => a = (b.1, b.2.1, b.2.2.offset) ∧ b.2.2.StandsIn text)
      (sliceHeader text missing index t here.offset) (readHeader missing index t here) := by
  unfold sliceHeader readHeader
  split
  · rw [search_eq h, pure_bind]
    cases hcut : here.cutAt? Token.afterChannel with
    | none => exact .error _
    | some cut =>
        obtain ⟨before, next, after⟩ := cut
        obtain ⟨hslice, hafter⟩ := slice_of_cutAt? h hcut
        dsimp only [Option.map_some]
        rw [hslice, pure_bind]
        cases Header.readWords {} (Text.words before) with
        | error name => exact .error _
        | ok header => exact .ok ⟨rfl, hafter⟩
  · exact .ok ⟨rfl, h⟩

theorem agrees_sliceContentType (h : here.StandsIn text) (missing : FormatError) (t : Token) :
    Agrees (fun a b => a = (b.1, b.2.offset) ∧ b.2.StandsIn text)
      (sliceContentType text missing t here.offset) (readContentType missing t here) := by
  unfold sliceContentType readContentType
  split
  · rw [search_eq h, pure_bind]
    cases hcut : here.cutAt? Token.afterConstrain with
    | none => exact .error _
    | some cut =>
        obtain ⟨before, next, after⟩ := cut
        obtain ⟨hslice, hafter⟩ := slice_of_cutAt? h hcut
        dsimp only [Option.map_some]
        rw [hslice, pure_bind]
        exact .ok ⟨rfl, hafter⟩
  · exact .ok ⟨rfl, h⟩

theorem agrees_sliceMessage (h : here.StandsIn text) (index : Nat) :
    Agrees (fun a b => a = (b.1, b.2.offset) ∧ b.2.StandsIn text)
      (sliceMessage text index here.offset) (readMessage index here) := by
  unfold sliceMessage readMessage
  dsimp only
  rw [search_eq h, pure_bind]
  cases hcut : here.cutAt? Token.afterRole with
  | none => exact .error _
  | some cut =>
      obtain ⟨before, t, here₁⟩ := cut
      obtain ⟨hslice, hhere₁⟩ := slice_of_cutAt? h hcut
      dsimp only [Option.map_some]
      rw [hslice, pure_bind]
      split
      · exact .error _
      · apply (agrees_sliceHeader hhere₁ _ index t).bind
        rintro _ ⟨header, next, here₂⟩ ⟨rfl, hhere₂⟩
        apply (agrees_sliceContentType hhere₂ _ next).bind
        rintro _ ⟨contentType, here₃⟩ ⟨rfl, hhere₃⟩
        dsimp only
        rw [search_eq hhere₃, pure_bind]
        cases hcut : here₃.cutAt? Token.terminators with
        | none => exact .error _
        | some cut =>
            obtain ⟨raw, terminator, here₄⟩ := cut
            obtain ⟨hslice, hhere₄⟩ := slice_of_cutAt? hhere₃ hcut
            dsimp only [Option.map_some]
            rw [hslice, pure_bind]
            apply (agrees_liftM (readContent index contentType raw)).bind
            rintro content _ rfl
            exact .ok ⟨rfl, hhere₄⟩

theorem agrees_sliceFrom (h : here.StandsIn text) (fuel index : Nat) :
    Agrees Eq (sliceFrom text fuel index here.offset) (parseFrom fuel index here) := by
  induction fuel generalizing here index with
  | zero => exact .ok rfl
  | succ fuel ih =>
      rw [sliceFrom, parseFrom, search_eq h, pure_bind]
      cases hcut : here.cutAt? [.start] with
      | none => exact .ok rfl
      | some cut =>
          obtain ⟨gap, t, header⟩ := cut
          obtain ⟨_, hheader⟩ := slice_of_cutAt? h hcut
          have hmessage := agrees_sliceMessage hheader index
          dsimp only [Option.map_some]
          generalize sliceMessage text index header.offset = x at hmessage ⊢
          generalize readMessage index header = y at hmessage ⊢
          cases hmessage with
          | error e => exact .error e
          | @ok _ r hr =>
              obtain ⟨rfl, hafter⟩ := hr
              have hrest := ih hafter (index + 1)
              rw [pure_bind]
              dsimp only
              generalize sliceFrom text fuel (index + 1) r.2.offset = x at hrest ⊢
              generalize parseFrom fuel (index + 1) r.2 = y at hrest ⊢
              cases hrest with
              | error e => exact .error e
              | ok hms => exact .ok (congrArg (r.1 :: ·) hms)

end

/-- No slice that is taken is missing, whether reading succeeds or fails. -/
theorem parseSliced_eq (text : String) : parseSliced text = some (parse text) := by
  have hstart : (Cursor.mk text.toList 0).StandsIn text.toList := ⟨[], rfl, rfl⟩
  exact (agrees_sliceFrom hstart _ 0).eq_some

end Dialogue.Wire
