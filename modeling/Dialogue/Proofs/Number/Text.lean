import Dialogue.Proofs.Number.Rounding
import Dialogue.Number.Numeral
import Mathlib.Data.List.DropRight
import Mathlib.Data.Nat.Digits.Lemmas

/-!
# Numbers in text

What the texts of two kinds read as: the decimal of a whole number of 64 bits reads as the number
nearest to it, and `nan`, in any case and behind a sign or none, is the only text that reads as a
number and is none.
-/
namespace Dialogue

theorem toLower_of_isDigit {c : Char} (h : c.isDigit = true) : c.toLower = c := by
  simp only [Char.isDigit, Bool.and_eq_true, decide_eq_true_eq, ge_iff_le,
    UInt32.le_iff_toNat_le] at h
  have hletters : '9'.val.toNat = 57 ∧ 'A'.val.toNat = 65 := by decide
  unfold Char.toLower
  rw [dif_neg]
  intro hupper
  simp only [ge_iff_le, UInt32.le_iff_toNat_le] at hupper
  omega

theorem isDigit_toDigits (n : Nat) : ∀ d ∈ Nat.toDigits 10 n, d.isDigit = true :=
  fun _ => Nat.isDigit_of_mem_toDigits (by decide) (by decide)

theorem toList_toString (n : Int) :
    (toString n).toList = (if n < 0 then ['-'] else []) ++ Nat.toDigits 10 n.natAbs := by
  cases n with
  | ofNat n => exact Nat.toList_repr
  | negSucc n =>
      rw [if_pos (Int.negSucc_lt_zero n)]
      change ("-" ++ (n + 1).repr).toList = _
      rw [String.toList_append, Nat.toList_repr]
      rfl

namespace Numeral

theorem digitsValue_toDigits (n : Nat) : digitsValue (Nat.toDigits 10 n) = n :=
  Nat.ofDigitChars_ten_toDigits

theorem unsigned?_of_digits (negative : Bool) {ds : List Char} (hne : ds ≠ [])
    (h : ∀ d ∈ ds, d.isDigit = true) :
    unsigned? negative ds = some ⟨negative, digitsValue ds, 0⟩ := by
  have htake : ds.takeWhile Char.isDigit = ds := List.takeWhile_eq_self_iff.2 h
  have hdrop : ds.dropWhile Char.isDigit = [] := List.dropWhile_eq_nil_iff.2 h
  have hempty : ds.isEmpty = false := by simpa using hne
  simp [unsigned?, htake, hdrop, hempty]

/-- A numeral reads as a number, if not as an infinity. -/
theorem reading_ne_notANumber (n : Numeral) : n.reading ≠ .notANumber := by
  have hnearest (negative : Bool) (m d : Nat) : Reading.nearest negative m d ≠ .notANumber := by
    unfold Reading.nearest
    dsimp only
    split <;> nofun
  unfold reading
  dsimp only
  split
  · nofun
  split
  · nofun
  split
  · nofun
  split
  · exact hnearest _ _ _
  · exact hnearest _ _ _

theorem reading_of_lt {n : Nat} (h : n < pow2 64) (negative : Bool) :
    (⟨negative, n, 0⟩ : Numeral).reading = .nearest negative n 1 := by
  have hwidth : width n ≤ 20 := by
    refine (Nat.length_toDigits_le_iff (by decide) (by decide)).2 (Nat.lt_trans h ?_)
    decide
  by_cases hz : n = 0
  · subst hz
    have hfinite : (Binary64.zero negative).overflows = false := by cases negative <;> rfl
    simp [reading, Reading.nearest, Binary64.round_zero, hfinite]
  · unfold reading
    dsimp only
    rw [if_neg hz, if_neg (by omega), if_neg (by omega)]
    change Reading.nearest negative (n * pow10 0) 1 = _
    rw [show pow10 0 = 1 from rfl, Nat.mul_one]

end Numeral

namespace Reading

theorem unsigned?_of_digits (negative : Bool) {ds : List Char} (hne : ds ≠ [])
    (h : ∀ d ∈ ds, d.isDigit = true) :
    unsigned? negative ds = some (⟨negative, digitsValue ds, 0⟩ : Numeral).reading := by
  have hword : ds.map Char.toLower = ds := by
    rw [List.map_congr_left fun d hd => toLower_of_isDigit (h d hd), List.map_id']
  have hletter {word : List Char} {c : Char} (hc : c ∈ word) (hd : c.isDigit = false) :
      ds ≠ word := by
    rintro rfl
    rw [h c hc] at hd
    cases hd
  have hinf : ds ≠ "inf".toList := hletter (by decide : 'i' ∈ "inf".toList) (by decide)
  have hinfinity : ds ≠ "infinity".toList :=
    hletter (by decide : 'i' ∈ "infinity".toList) (by decide)
  have hnan : ds ≠ "nan".toList := hletter (by decide : 'n' ∈ "nan".toList) (by decide)
  unfold unsigned?
  simp only [hword, hinf, hinfinity, hnan, or_self, if_false,
    Numeral.unsigned?_of_digits negative hne h, Option.map_some]

theorem ofText?_of_digits {ds : List Char} (hne : ds ≠ []) (h : ∀ d ∈ ds, d.isDigit = true) :
    ofText? ds = unsigned? false ds := by
  obtain ⟨d, ds, rfl⟩ := List.exists_cons_of_ne_nil hne
  have hd : d.isDigit = true := h d List.mem_cons_self
  unfold ofText?
  split
  · rename_i he
    cases he
    cases hd
  · rename_i he
    cases he
    cases hd
  · rfl

/-- The decimal of a whole number reads as the number nearest to it. -/
theorem ofText?_toString (w : Whole) :
    ofText? (toString w.value).toList = some (ofInt w.value) := by
  have hne : Nat.toDigits 10 w.value.natAbs ≠ [] := Nat.toDigits_ne_nil
  have hdigits := isDigit_toDigits w.value.natAbs
  have hread (negative : Bool) : unsigned? negative (Nat.toDigits 10 w.value.natAbs) =
      some (nearest negative w.value.natAbs 1) := by
    rw [unsigned?_of_digits negative hne hdigits, Numeral.digitsValue_toDigits,
      Numeral.reading_of_lt w.natAbs_lt]
  rw [toList_toString, ofInt]
  by_cases hneg : w.value < 0
  · rw [if_pos hneg, decide_eq_true hneg]
    exact hread true
  · rw [if_neg hneg, decide_eq_false hneg, List.nil_append, ofText?_of_digits hne hdigits]
    exact hread false

/-- A sign or none, and the word `nan` in any case. -/
def WritesNan (cs : List Char) : Prop :=
  ∃ sign word, (sign = [] ∨ sign = ['+'] ∨ sign = ['-']) ∧ cs = sign ++ word ∧
    word.map Char.toLower = "nan".toList

theorem unsigned?_eq_nan_iff {negative : Bool} {cs : List Char} :
    unsigned? negative cs = some notANumber ↔ cs.map Char.toLower = "nan".toList := by
  unfold unsigned?
  dsimp only
  constructor
  · intro h
    split at h
    · cases h
    split at h
    · assumption
    · obtain ⟨n, -, hn⟩ := Option.map_eq_some_iff.1 h
      exact absurd hn n.reading_ne_notANumber
  · intro h
    rw [h, if_neg (by decide), if_pos rfl]

theorem ofText?_eq_nan_iff {cs : List Char} : ofText? cs = some notANumber ↔ WritesNan cs := by
  constructor
  · intro h
    unfold ofText? at h
    split at h
    · exact ⟨['-'], _, .inr (.inr rfl), rfl, unsigned?_eq_nan_iff.1 h⟩
    · exact ⟨['+'], _, .inr (.inl rfl), rfl, unsigned?_eq_nan_iff.1 h⟩
    · exact ⟨[], _, .inl rfl, rfl, unsigned?_eq_nan_iff.1 h⟩
  · rintro ⟨sign, word, hsign, rfl, hword⟩
    have hread (negative : Bool) : unsigned? negative word = some notANumber :=
      unsigned?_eq_nan_iff.2 hword
    rcases hsign with rfl | rfl | rfl
    -- the word itself does not begin with a sign
    · rw [List.nil_append]
      unfold ofText?
      split
      · exact absurd hword (by simp)
      · exact absurd hword (by simp)
      · exact hread false
    · exact hread false
    · exact hread true

end Reading

end Dialogue
