import Dialogue.Text.Ascii
import Dialogue.Text.Lowercase

/-!
# Letter case of ASCII text

Texts count as the same up to the case of ASCII letters when all their characters do. The lower case
of an ASCII text is that of its letters, so that such texts have the same lower case.
-/
namespace Dialogue.Text

variable {s t : String}

theorem toNat_toLower (c : Char) :
    c.toLower.toNat = if 65 ≤ c.toNat ∧ c.toNat ≤ 90 then c.toNat + 32 else c.toNat := by
  have hshift : ('a'.val - 'A'.val).toNat = 32 := by decide
  have hupper : (c.val ≥ 'A'.val ∧ c.val ≤ 'Z'.val) ↔ 65 ≤ c.toNat ∧ c.toNat ≤ 90 := by
    rw [ge_iff_le, UInt32.le_iff_toNat_le, UInt32.le_iff_toNat_le]
    rfl
  unfold Char.toLower
  split
  · rename_i h
    have hn := hupper.1 h
    rw [if_pos hn]
    show (c.val + ('a'.val - 'A'.val)).toNat = c.val.toNat + 32
    have hle : c.val.toNat ≤ 90 := hn.2
    rw [UInt32.toNat_add, hshift]
    omega
  · rename_i h
    rw [if_neg fun hn => h (hupper.2 hn)]

theorem toList_toLower (s : String) : s.toLower.toList = s.toList.map Char.toLower :=
  String.toList_map

theorem sameIgnoringAsciiCase_iff :
    sameIgnoringAsciiCase s t = true ↔ s.toList.map Char.toLower = t.toList.map Char.toLower := by
  rw [sameIgnoringAsciiCase, beq_iff_eq, ← String.toList_inj, toList_toLower, toList_toLower]

theorem lowerAfter_of_ascii {cs : List Char} (h : ∀ c ∈ cs, c.toNat < 128) (before : List Char) :
    lowerAfter before cs = cs.map Char.toLower := by
  induction cs generalizing before with
  | nil => rfl
  | cons c cs ih =>
      obtain ⟨hc, hcs⟩ := List.forall_mem_cons.1 h
      have hsigma : c ≠ 'Σ' := by
        rintro rfl
        exact absurd hc (by decide)
      have hlower : lowerChar c = [c.toLower] := if_pos hc
      rw [lowerAfter, if_neg hsigma, hlower, ih hcs, List.map_cons, List.singleton_append]

/-- The lower case of an ASCII text is that of its letters. -/
theorem lowercase_of_ascii (h : ∀ c ∈ s.toList, c.toNat < 128) : lowercase s = s.toLower := by
  rw [lowercase, lowerAfter_of_ascii h, ← toList_toLower, String.ofList_toList]

theorem lowercase_eq_of_sameIgnoringAsciiCase (hs : ∀ c ∈ s.toList, c.toNat < 128)
    (ht : ∀ c ∈ t.toList, c.toNat < 128) (h : sameIgnoringAsciiCase s t = true) :
    lowercase s = lowercase t := by
  rw [lowercase_of_ascii hs, lowercase_of_ascii ht]
  exact beq_iff_eq.1 h

end Dialogue.Text
