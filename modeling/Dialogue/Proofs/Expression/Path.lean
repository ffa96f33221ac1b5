import Dialogue.Expression.Parser
import Dialogue.Proofs.Text.Blank
import Dialogue.Proofs.Text.Case

/-!
# The text of paths

Cutting a text at every occurrence of a character is undone by writing the character in front of
every piece but the first. A path is a root and segments with a point in front of each, so it is
read back from its text, and from nothing else. Reading stops at the first character that could not
stand in a path; `EndsPath` is what that asks of the text behind it.
-/
namespace Dialogue

namespace Text
variable {separator : Char}

theorem splitAt_of_not_mem {piece : List Char} (h : separator ∉ piece) :
    splitAt separator piece = [piece] := by
  induction piece with
  | nil => rfl
  | cons c piece ih =>
      have hc : c ≠ separator := fun e => h (e ▸ List.mem_cons_self)
      rw [splitAt, if_neg hc, ih fun hp => h (List.mem_cons_of_mem c hp)]

theorem splitAt_append {piece : List Char} (h : separator ∉ piece) (cs : List Char) :
    splitAt separator (piece ++ separator :: cs) = piece :: splitAt separator cs := by
  induction piece with
  | nil => rw [List.nil_append, splitAt, if_pos rfl]
  | cons c piece ih =>
      have hc : c ≠ separator := fun e => h (e ▸ List.mem_cons_self)
      rw [List.cons_append, splitAt, if_neg hc, ih fun hp => h (List.mem_cons_of_mem c hp)]

theorem splitAt_ne_nil (cs : List Char) : splitAt separator cs ≠ [] := by
  cases cs with
  | nil => exact List.cons_ne_nil _ _
  | cons c cs =>
      rw [splitAt]
      split
      · exact List.cons_ne_nil _ _
      · split <;> exact List.cons_ne_nil _ _

/-- The pieces of a text are the only ones that write it and do not hold the separator. -/
theorem splitAt_eq_cons_iff {cs piece : List Char} {pieces : List (List Char)} :
    splitAt separator cs = piece :: pieces ↔
      cs = piece ++ pieces.flatMap (separator :: ·) ∧ ∀ p ∈ piece :: pieces, separator ∉ p := by
  constructor
  · intro h
    induction cs generalizing piece pieces with
    | nil =>
        cases h
        simp
    | cons c cs ih =>
        cases hs : splitAt separator cs with
        | nil => exact absurd hs (splitAt_ne_nil cs)
        | cons first others =>
            obtain ⟨hcs, hlack⟩ := ih hs
            rw [splitAt, hs] at h
            split at h
            · rename_i hc
              cases h
              refine ⟨by rw [hcs, hc]; simp, ?_⟩
              intro p hp
              rcases List.mem_cons.1 hp with rfl | hp
              · exact List.not_mem_nil
              · exact hlack p hp
            · rename_i hc
              cases h
              refine ⟨by rw [hcs, List.cons_append], ?_⟩
              intro p hp
              rcases List.mem_cons.1 hp with rfl | hp
              · intro hm
                rcases List.mem_cons.1 hm with rfl | hm
                · exact hc rfl
                · exact hlack first List.mem_cons_self hm
              · exact hlack p (List.mem_cons_of_mem first hp)
  · rintro ⟨rfl, hlack⟩
    induction pieces generalizing piece with
    | nil =>
        rw [List.flatMap_nil, List.append_nil]
        exact splitAt_of_not_mem (hlack piece List.mem_cons_self)
    | cons next pieces ih =>
        have hnext : ∀ p ∈ next :: pieces, separator ∉ p :=
          fun p hp => hlack p (List.mem_cons_of_mem piece hp)
        rw [List.flatMap_cons, List.cons_append, splitAt_append (hlack piece List.mem_cons_self),
          ih hnext]

end Text

theorem isSegmentChar_iff {c : Char} : isSegmentChar c = true ↔
    48 ≤ c.toNat ∧ c.toNat ≤ 57 ∨ 65 ≤ c.toNat ∧ c.toNat ≤ 90 ∨ 97 ≤ c.toNat ∧ c.toNat ≤ 122 ∨
      c.toNat = 95 ∨ c.toNat = 45 := by
  have halnum : c.isAlphanum = (decide ('A'.val ≤ c.val ∧ c.val ≤ 'Z'.val) ||
      (decide ('a'.val ≤ c.val) && decide (c.val ≤ 'z'.val)) ||
      (decide ('0'.val ≤ c.val) && decide (c.val ≤ '9'.val))) := rfl
  have hletters : 'A'.val.toNat = 65 ∧ 'Z'.val.toNat = 90 ∧ 'a'.val.toNat = 97 ∧
      'z'.val.toNat = 122 ∧ '0'.val.toNat = 48 ∧ '9'.val.toNat = 57 := by decide
  have hunderscore : c = '_' ↔ c.toNat = 95 := Char.toNat_inj.symm
  have hhyphen : c = '-' ↔ c.toNat = 45 := Char.toNat_inj.symm
  have hn : c.toNat = c.val.toNat := rfl
  simp only [isSegmentChar, halnum, Bool.or_eq_true, Bool.and_eq_true, decide_eq_true_eq,
    UInt32.le_iff_toNat_le, hunderscore, hhyphen]
  omega

theorem isSegmentChar_of_isDigit {c : Char} (h : c.isDigit = true) : isSegmentChar c = true := by
  simp [isSegmentChar, Char.isAlphanum, h]

/-- A segment of a path: at least one character, each of which may stand in a segment. -/
def IsSegment (s : String) : Prop := s.toList ≠ [] ∧ ∀ c ∈ s.toList, isSegmentChar c = true

instance (s : String) : Decidable (IsSegment s) :=
  decidable_of_iff (s.toList ≠ [] ∧ s.toList.all isSegmentChar = true)
    (and_congr_right' List.all_eq_true)

theorem toNat_lt_of_isSegmentChar {c : Char} (h : isSegmentChar c = true) : c.toNat < 128 := by
  rw [isSegmentChar_iff] at h
  omega

theorem isSegmentChar_toLower (c : Char) : isSegmentChar c.toLower = isSegmentChar c := by
  rw [Bool.eq_iff_iff, isSegmentChar_iff, isSegmentChar_iff, Text.toNat_toLower]
  split <;> omega

theorem isSegment_of_same {s t : String} (h : Text.sameIgnoringAsciiCase s t = true)
    (ht : IsSegment t) : IsSegment s := by
  rw [Text.sameIgnoringAsciiCase_iff] at h
  obtain ⟨hne, hchars⟩ := ht
  refine ⟨?_, fun c hc => ?_⟩
  · rintro hs
    rw [hs] at h
    exact hne (List.map_eq_nil_iff.1 h.symm)
  · have hmem : c.toLower ∈ t.toList.map Char.toLower := h ▸ List.mem_map_of_mem hc
    obtain ⟨d, hd, hcd⟩ := List.mem_map.1 hmem
    rw [← isSegmentChar_toLower, ← hcd, isSegmentChar_toLower]
    exact hchars d hd

theorem lowercase_of_same {s t : String} (h : Text.sameIgnoringAsciiCase s t = true)
    (ht : IsSegment t) : Text.lowercase s = Text.lowercase t :=
  Text.lowercase_eq_of_sameIgnoringAsciiCase
    (fun c hc => toNat_lt_of_isSegmentChar ((isSegment_of_same h ht).2 c hc))
    (fun c hc => toNat_lt_of_isSegmentChar (ht.2 c hc)) h

def segmentsText (segments : List String) : List Char :=
  segments.flatMap fun s => '.' :: s.toList

/-- A segment or a point cannot go on with this text. -/
def EndsPath (rest : List Char) : Prop := ∀ c ∈ rest.head?, isSegmentChar c = false ∧ c ≠ '.'

theorem endsPath_nil : EndsPath [] := nofun

theorem endsPath_cons {c : Char} (h : isSegmentChar c = false ∧ c ≠ '.') (cs : List Char) :
    EndsPath (c :: cs) := by
  rintro d ⟨⟩
  exact h

theorem ne_point_of_isSegmentChar {c : Char} (h : isSegmentChar c = true) : c ≠ '.' := by
  rintro rfl
  exact absurd h (by decide)

theorem segmentsText_pieces (pieces : List (List Char)) :
    segmentsText (pieces.map String.ofList) = pieces.flatMap ('.' :: ·) := by
  simp [segmentsText, List.flatMap_map]

theorem segments?_eq_some_iff {run : List Char} {segments : List String} :
    segments? run = some segments ↔
      run = segmentsText segments ∧ ∀ s ∈ segments, s.toList ≠ [] ∧ '.' ∉ s.toList := by
  unfold segments?
  constructor
  · intro h
    split at h
    · rename_i pieces hs
      obtain ⟨hrun, hlack⟩ := Text.splitAt_eq_cons_iff.1 hs
      split at h
      · cases h
      · rename_i hne
        cases h
        refine ⟨by rw [segmentsText_pieces, hrun, List.nil_append], ?_⟩
        intro s hm
        obtain ⟨piece, hp, rfl⟩ := List.mem_map.1 hm
        rw [String.toList_ofList]
        refine ⟨?_, hlack piece (List.mem_cons_of_mem [] hp)⟩
        rintro rfl
        exact hne (List.any_eq_true.2 ⟨[], hp, rfl⟩)
    · cases h
  · rintro ⟨rfl, h⟩
    have hs : Text.splitAt '.' (segmentsText segments) = [] :: segments.map String.toList := by
      rw [Text.splitAt_eq_cons_iff, List.nil_append, List.flatMap_map]
      refine ⟨rfl, ?_⟩
      intro p hp
      rcases List.mem_cons.1 hp with rfl | hp
      · exact List.not_mem_nil
      · obtain ⟨s, hm, rfl⟩ := List.mem_map.1 hp
        exact (h s hm).2
    have hne : (segments.map String.toList).any List.isEmpty = false := by
      rw [List.any_eq_false]
      intro p hp
      obtain ⟨s, hm, rfl⟩ := List.mem_map.1 hp
      simpa using (h s hm).1
    rw [hs]
    simp only [hne, Bool.false_eq_true, if_false, List.map_map]
    simp [Function.comp_def]

theorem Root.read?_eq_some_iff {root : Root} {cs rest : List Char} :
    Root.read? cs = some (root, rest) ↔ cs = root.name.toList ++ rest := by
  unfold read?
  constructor
  · intro h
    split at h
    · rename_i hd
      cases h
      exact Text.dropLeading?_eq_some.1 hd
    · obtain ⟨r, hr, he⟩ := Option.map_eq_some_iff.1 h
      cases he
      exact Text.dropLeading?_eq_some.1 hr
  · rintro rfl
    cases root with
    | vars => rw [Text.dropLeading?_eq_some.2 rfl]
    | input => rfl

def isPathChar (c : Char) : Bool := isSegmentChar c || c = '.'

theorem isPathChar_of_mem_name (root : Root) : ∀ c ∈ root.name.toList, isPathChar c = true := by
  rw [← List.all_eq_true]
  cases root <;> decide

theorem readPath?_eq (cs : List Char) :
    readPath? cs = (Root.read? cs).bind fun r =>
      (segments? (r.2.takeWhile isPathChar)).map fun segments =>
        ((r.1, segments), r.2.dropWhile isPathChar) := by
  unfold readPath?
  cases Root.read? cs with
  | none => rfl
  | some r =>
      change (segments? (r.2.takeWhile isPathChar)).bind _ = (segments? _).map _
      cases segments? (r.2.takeWhile isPathChar) <;> rfl

theorem isPathChar_of_mem_segmentsText {segments : List String}
    (h : ∀ s ∈ segments, IsSegment s) : ∀ c ∈ segmentsText segments, isPathChar c = true := by
  intro c hc
  obtain ⟨s, hs, hc⟩ := List.mem_flatMap.1 hc
  rcases List.mem_cons.1 hc with rfl | hc
  · decide
  · simp [isPathChar, (h s hs).2 c hc]

/-- A path is read from its own text, whatever cannot go on with it behind. -/
theorem readPath?_append (root : Root) {segments : List String} (h : ∀ s ∈ segments, IsSegment s)
    {rest : List Char} (hr : EndsPath rest) :
    readPath? (root.name.toList ++ (segmentsText segments ++ rest)) =
      some ((root, segments), rest) := by
  have hchars := isPathChar_of_mem_segmentsText h
  have hstop : ∀ c ∈ rest.head?, isPathChar c = false := by
    intro c hc
    simp [isPathChar, (hr c hc).1, (hr c hc).2]
  have htake : (segmentsText segments ++ rest).takeWhile isPathChar = segmentsText segments := by
    rw [List.takeWhile_append_of_pos hchars]
    cases rest with
    | nil => simp
    | cons c rest => rw [List.takeWhile_cons_of_neg (by simp [hstop c rfl]), List.append_nil]
  have hdrop : (segmentsText segments ++ rest).dropWhile isPathChar = rest := by
    rw [List.dropWhile_append_of_pos hchars]
    cases rest with
    | nil => rfl
    | cons c rest => rw [List.dropWhile_cons_of_neg (by simp [hstop c rfl])]
  have hsegments : segments? (segmentsText segments) = some segments := by
    refine segments?_eq_some_iff.2 ⟨rfl, ?_⟩
    intro s hs
    exact ⟨(h s hs).1, fun hp => ne_point_of_isSegmentChar ((h s hs).2 '.' hp) rfl⟩
  rw [readPath?_eq, Root.read?_eq_some_iff.2 rfl, Option.bind_some, htake, hdrop, hsegments,
    Option.map_some]

theorem eq_of_readPath? {cs rest : List Char} {root : Root} {segments : List String}
    (h : readPath? cs = some ((root, segments), rest)) :
    cs = root.name.toList ++ (segmentsText segments ++ rest) ∧ ∀ s ∈ segments, IsSegment s := by
  rw [readPath?_eq] at h
  obtain ⟨⟨root', after⟩, hroot, hmap⟩ := Option.bind_eq_some_iff.1 h
  obtain ⟨found, hfound, he⟩ := Option.map_eq_some_iff.1 hmap
  cases he
  obtain ⟨hrun, hs⟩ := segments?_eq_some_iff.1 hfound
  refine ⟨?_, ?_⟩
  · rw [Root.read?_eq_some_iff.1 hroot, ← hrun, List.takeWhile_append_dropWhile]
  · intro s hm
    refine ⟨(hs s hm).1, ?_⟩
    intro c hc
    have hrun' : c ∈ after.takeWhile isPathChar := by
      rw [hrun]
      exact List.mem_flatMap.2 ⟨s, hm, List.mem_cons_of_mem _ hc⟩
    have hpath : isPathChar c = true := List.mem_takeWhile_imp hrun'
    have hpoint : c ≠ '.' := fun e => (hs s hm).2 (e ▸ hc)
    simpa [isPathChar, hpoint] using hpath

end Dialogue
