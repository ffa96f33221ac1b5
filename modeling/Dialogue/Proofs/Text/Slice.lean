import Dialogue.Text.Utf8
import Mathlib.Data.List.Infix

/-!
# Slices of a text

Places in a text are counted in bytes, as those of a string are. A slice is the part of a text
between two places. It is there exactly if the places are in order and both are boundaries:
characters begin there, or the text ends.
-/
namespace Dialogue.Text

theorem byteLength_eq (cs : List Char) : byteLength cs = (String.ofList cs).utf8ByteSize := by
  induction cs with
  | nil => rfl
  | cons c cs ih =>
      have hcons : String.ofList (c :: cs) = String.singleton c ++ String.ofList cs := by
        rw [String.singleton_eq_ofList, ← String.ofList_append, List.singleton_append]
      rw [byteLength, hcons, String.utf8ByteSize_append, String.utf8ByteSize_singleton, ih]

theorem byteLength_toList (s : String) : byteLength s.toList = s.utf8ByteSize := by
  rw [byteLength_eq, String.ofList_toList]

/-- A character begins at the place, or the text ends there. -/
def IsBoundary (text : List Char) (place : Nat) : Prop :=
  ∃ before, before <+: text ∧ byteLength before = place

theorem isBoundary_toList_iff {s : String} {place : Nat} :
    IsBoundary s.toList place ↔ String.Pos.Raw.IsValid s ⟨place⟩ := by
  rw [String.Pos.Raw.isValid_iff_exists_append]
  constructor
  · rintro ⟨before, ⟨after, h⟩, rfl⟩
    refine ⟨String.ofList before, String.ofList after, ?_, ?_⟩
    · rw [← String.ofList_append, h, String.ofList_toList]
    · exact congrArg String.Pos.Raw.mk (byteLength_eq before)
  · rintro ⟨front, back, rfl, hp⟩
    refine ⟨front.toList, ⟨back.toList, String.toList_append.symm⟩, ?_⟩
    rw [byteLength_toList]
    exact (congrArg String.Pos.Raw.byteIdx hp).symm

def splitBytes? : Nat → List Char → Option (List Char × List Char)
  | 0, cs => some ([], cs)
  | _ + 1, [] => none
  | n + 1, c :: cs =>
      if c.utf8Size ≤ n + 1 then
        (splitBytes? (n + 1 - c.utf8Size) cs).map fun (before, after) => (c :: before, after)
      else none

/-- The slice of a text between two places, if there is one. -/
def slice? (text : List Char) (start stop : Nat) : Option (List Char) :=
  if start ≤ stop then do
    let (_, rest) ← splitBytes? start text
    let (piece, _) ← splitBytes? (stop - start) rest
    return piece
  else none

theorem splitBytes?_byteLength (before after : List Char) :
    splitBytes? (byteLength before) (before ++ after) = some (before, after) := by
  induction before with
  | nil => cases after <;> rfl
  | cons c before ih =>
      have hpos := c.utf8Size_pos
      obtain ⟨n, hn⟩ : ∃ n, byteLength (c :: before) = n + 1 :=
        Nat.exists_eq_add_one.2 (by simp only [byteLength]; omega)
      have hc : c.utf8Size ≤ n + 1 := by simp only [byteLength] at hn; omega
      have hrest : n + 1 - c.utf8Size = byteLength before := by
        simp only [byteLength] at hn
        omega
      rw [hn, List.cons_append, splitBytes?, if_pos hc, hrest, ih]
      rfl

theorem splitBytes?_eq_some_iff {n : Nat} {cs before after : List Char} :
    splitBytes? n cs = some (before, after) ↔ cs = before ++ after ∧ byteLength before = n := by
  constructor
  · intro h
    induction cs generalizing n before with
    | nil =>
        cases n with
        | zero => cases h; exact ⟨rfl, rfl⟩
        | succ n => cases h
    | cons c cs ih =>
        cases n with
        | zero => cases h; exact ⟨rfl, rfl⟩
        | succ n =>
            rw [splitBytes?] at h
            split at h
            · obtain ⟨⟨xs, ys⟩, hs, he⟩ := Option.map_eq_some_iff.1 h
              cases he
              obtain ⟨rfl, hx⟩ := ih hs
              refine ⟨rfl, ?_⟩
              simp only [byteLength]
              omega
            · cases h
  · rintro ⟨rfl, rfl⟩
    exact splitBytes?_byteLength before after

/-- A text is cut at a place in one way. -/
theorem append_inj_of_byteLength {before before' after after' : List Char}
    (h : before ++ after = before' ++ after') (hb : byteLength before = byteLength before') :
    before = before' ∧ after = after' := by
  have hcut := splitBytes?_byteLength before after
  rw [h, hb, splitBytes?_byteLength, Option.some.injEq, Prod.mk.injEq] at hcut
  exact ⟨hcut.1.symm, hcut.2.symm⟩

theorem slice?_eq_some_iff {text piece : List Char} {start stop : Nat} :
    slice? text start stop = some piece ↔ ∃ before after, text = before ++ (piece ++ after) ∧
      byteLength before = start ∧ start + byteLength piece = stop := by
  simp only [slice?, Option.ite_none_right_eq_some, bind, Option.bind_eq_some_iff, Prod.exists,
    splitBytes?_eq_some_iff, pure, Option.some.injEq]
  constructor
  · rintro ⟨hle, before, rest, ⟨rfl, hb⟩, _, after, ⟨rfl, hp⟩, rfl⟩
    exact ⟨before, after, rfl, hb, by omega⟩
  · rintro ⟨before, after, rfl, hb, hp⟩
    exact ⟨by omega, before, piece ++ after, ⟨rfl, hb⟩, piece, after, ⟨rfl, by omega⟩, rfl⟩

theorem slice?_isSome_iff {text : List Char} {start stop : Nat} :
    (slice? text start stop).isSome = true ↔
      start ≤ stop ∧ IsBoundary text start ∧ IsBoundary text stop := by
  rw [Option.isSome_iff_exists]
  constructor
  · rintro ⟨piece, h⟩
    obtain ⟨before, after, rfl, rfl, rfl⟩ := slice?_eq_some_iff.1 h
    refine ⟨Nat.le_add_right _ _, ⟨before, List.prefix_append _ _, rfl⟩, before ++ piece, ?_, ?_⟩
    · rw [← List.append_assoc]
      exact List.prefix_append _ _
    · exact byteLength_append _ _
  · rintro ⟨hle, ⟨xs, hx, rfl⟩, ys, hy, rfl⟩
    have hprefix : xs <+: ys := by
      rcases List.prefix_or_prefix_of_prefix hx hy with h | ⟨zs, rfl⟩
      · exact h
      · have hlen := length_le_byteLength zs
        rw [byteLength_append] at hle
        obtain rfl : zs = [] := List.eq_nil_of_length_eq_zero (by omega)
        rw [List.append_nil]
    obtain ⟨piece, rfl⟩ := hprefix
    obtain ⟨after, rfl⟩ := hy
    refine ⟨piece, slice?_eq_some_iff.2 ⟨xs, after, List.append_assoc _ _ _, rfl, ?_⟩⟩
    rw [byteLength_append]

end Dialogue.Text
