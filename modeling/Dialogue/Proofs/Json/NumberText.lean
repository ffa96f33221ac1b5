import Dialogue.Json.Printer
import Dialogue.Proofs.Json.Numeral
import Dialogue.Proofs.Number.Text

/-!
# The text of a number

A number is written as digits, perhaps a fraction and perhaps an exponent, with a sign in front of
it if it is negative. Such a text is read to its end. The text of a whole number reads back as that
number; the value that a float reads back as is not looked at here.
-/
namespace Dialogue.Json

theorem takeWhile_isDigit_append {ds tail : List Char} (h : ∀ d ∈ ds, d.isDigit = true)
    (ht : tail.takeWhile Char.isDigit = []) : (ds ++ tail).takeWhile Char.isDigit = ds := by
  rw [List.takeWhile_append_of_pos h, ht, List.append_nil]

inductive ExponentText : List Char → Prop
  | none : ExponentText []
  | some {c : Char} {ds : List Char} (sign : c = '+' ∨ c = '-') (digits : ds ≠ [])
      (all : ∀ d ∈ ds, d.isDigit = true) : ExponentText ('e' :: c :: ds)

inductive FractionText : List Char → Prop
  | none {cs : List Char} (exponent : ExponentText cs) : FractionText cs
  | some {ds cs : List Char} (digits : ds ≠ []) (all : ∀ d ∈ ds, d.isDigit = true)
      (exponent : ExponentText cs) : FractionText ('.' :: (ds ++ cs))

/-- Digits in front of a fraction: a number without its sign. -/
inductive NumberText : List Char → Prop
  | mk {ds cs : List Char} (digits : ds ≠ []) (all : ∀ d ∈ ds, d.isDigit = true)
      (fraction : FractionText cs) : NumberText (ds ++ cs)

theorem FractionText.isDigit_head {cs : List Char} (h : FractionText cs) :
    ∀ d ∈ cs.head?, d.isDigit = false := by
  intro d hd
  cases h with
  | none exponent =>
      cases exponent with
      | none => cases hd
      | some => cases hd; rfl
  | some => cases hd; rfl

theorem FractionText.takeWhile_isDigit {cs : List Char} (h : FractionText cs) :
    cs.takeWhile Char.isDigit = [] := takeWhile_isDigit_eq_nil h.isDigit_head

theorem dropWhile_isDigit_append {ds cs : List Char} (h : ∀ d ∈ ds, d.isDigit = true)
    (hc : cs.takeWhile Char.isDigit = []) : (ds ++ cs).dropWhile Char.isDigit = cs := by
  rw [List.dropWhile_append_of_pos h]
  have := List.takeWhile_append_dropWhile (p := Char.isDigit) (l := cs)
  rwa [hc, List.nil_append] at this

theorem skipExponent_of_text {cs : List Char} (h : ExponentText ('e' :: cs)) :
    skipExponent cs = .ok [] := by
  cases h with
  | some sign digits all =>
      rename_i ds
      cases ds with
      | nil => exact absurd rfl digits
      | cons d ds =>
          rw [skipExponent_of_sign sign (all d List.mem_cons_self)]
          have := @dropWhile_isDigit_append _ [] all rfl
          rw [List.append_nil] at this
          rw [this]

theorem skipTail_of_text {cs : List Char} (h : FractionText cs) : skipTail cs = .ok [] := by
  cases h with
  | none exponent =>
      cases exponent with
      | none => rfl
      | some sign digits all => exact skipExponent_of_text (.some sign digits all)
  | some digits all exponent =>
      rename_i ds cs
      have hstop := (FractionText.none exponent).takeWhile_isDigit
      have ht := takeWhile_isDigit_append all hstop
      have hd := dropWhile_isDigit_append all hstop
      simp only [skipTail, skipFraction, ht, hd]
      cases ds with
      | nil => exact absurd rfl digits
      | cons d ds =>
          cases exponent with
          | none => rfl
          | some sign digits all => exact skipExponent_of_text (.some sign digits all)

theorem NumberText.rest_eq_nil {cs rest : List Char} (h : NumberText cs) {negative : Bool}
    {n : Number} (hn : numberAt negative cs = .ok (n, rest)) : rest = [] := by
  have hs := skipNumber_of_numberAt hn
  cases h with
  | @mk ds cs digits all fraction =>
      cases ds with
      | nil => exact absurd rfl digits
      | cons c ds =>
          have hc : c.isDigit = true := all c List.mem_cons_self
          by_cases hz : c = '0'
          · subst hz
            cases ds with
            | nil =>
                rw [List.singleton_append, skipNumber_zero fraction.isDigit_head,
                  skipTail_of_text fraction] at hs
                cases hs
                rfl
            | cons d ds =>
                -- a zero in front of another digit is refused
                have hd : d.isDigit = true := all d (by simp)
                simp [skipNumber, hd] at hs
          · rw [List.cons_append, skipNumber_of_ne_zero hz hc, ← List.cons_append,
              dropWhile_isDigit_append all fraction.takeWhile_isDigit,
              skipTail_of_text fraction] at hs
            cases hs
            rfl

theorem isDigit_replicate (k : Nat) : ∀ d ∈ List.replicate k '0', d.isDigit = true := by
  intro d hd
  rw [List.eq_of_mem_replicate hd]
  rfl

theorem numberText_toDigits (n : Nat) : NumberText (Nat.toDigits 10 n) := by
  have := NumberText.mk Nat.toDigits_ne_nil (isDigit_toDigits n) (.none .none)
  rwa [List.append_nil] at this

theorem numberText_positional {digits : List Char} (hne : digits ≠ [])
    (h : ∀ d ∈ digits, d.isDigit = true) (order : Int) :
    NumberText (DecimalLayout.positional digits order) := by
  cases order with
  | ofNat k =>
      simp only [DecimalLayout.positional]
      split
      · have hd : ∀ d ∈ digits ++ List.replicate (k + 1 - digits.length) '0', d.isDigit = true := by
          intro d hd
          rcases List.mem_append.mp hd with hd | hd
          · exact h d hd
          · exact isDigit_replicate _ d hd
        exact .mk (by simp [hne]) hd (@FractionText.some ['0'] [] (by simp) (by simp) .none)
      · rename_i hl
        have hf : FractionText ('.' :: (digits.drop (k + 1) ++ [])) := by
          refine .some ?_ ?_ .none
          · rw [Ne, List.drop_eq_nil_iff]
            exact hl
          · intro d hd
            exact h d (List.mem_of_mem_drop hd)
        rw [List.append_nil] at hf
        refine .mk ?_ ?_ hf
        · simp [hne]
        · intro d hd
          exact h d (List.mem_of_mem_take hd)
  | negSucc k =>
      have hf : FractionText ('.' :: (List.replicate k '0' ++ digits ++ [])) := by
        refine .some (by simp [hne]) ?_ .none
        intro d hd
        rcases List.mem_append.mp hd with hd | hd
        · exact isDigit_replicate _ d hd
        · exact h d hd
      rw [List.append_nil] at hf
      exact @NumberText.mk ['0'] _ (by simp) (by simp) hf

theorem numberText_scientific {digits : List Char} (hne : digits ≠ [])
    (h : ∀ d ∈ digits, d.isDigit = true) (order : Int) :
    NumberText (DecimalLayout.scientific digits order) := by
  have he : ExponentText
      ('e' :: (if order < 0 then '-' else '+') :: Nat.toDigits 10 order.natAbs) := by
    refine .some ?_ Nat.toDigits_ne_nil (isDigit_toDigits _)
    split
    · exact .inr rfl
    · exact .inl rfl
  unfold DecimalLayout.scientific
  split
  · rename_i first next rest
    have hr : ∀ d ∈ next :: rest, d.isDigit = true := fun d hd => h d (List.mem_cons_of_mem _ hd)
    have hf := FractionText.some (List.cons_ne_nil next rest) hr he
    exact @NumberText.mk [first] _ (by simp) (by simpa using h first List.mem_cons_self) hf
  · exact .mk hne h (.none he)

theorem numberText_floatLayout (d : Decimal) : NumberText (floatLayout.write d) := by
  unfold DecimalLayout.write
  dsimp only
  split
  · exact numberText_positional Nat.toDigits_ne_nil (isDigit_toDigits _) _
  · exact numberText_scientific Nat.toDigits_ne_nil (isDigit_toDigits _) _

/-- A number is written as a sign, if it is negative, and a text that can be read to its end. -/
theorem exists_numberText (n : Number) : ∃ (negative : Bool) (body : List Char),
    NumberText body ∧ numberText n = if negative then '-' :: body else body := by
  cases n with
  | whole w =>
      rw [numberText]
      cases w.value with
      | ofNat k => exact ⟨false, _, numberText_toDigits k, rfl⟩
      | negSucc k => exact ⟨true, _, numberText_toDigits (k + 1), rfl⟩
  | float x =>
      refine ⟨x.negative, _, ?_, rfl⟩
      split
      · exact @NumberText.mk ['0'] _ (by simp) (by simp)
          (@FractionText.some ['0'] [] (by simp) (by simp) .none)
      · exact numberText_floatLayout _

theorem le_ofDigitChars (ds : List Char) (start : Nat) : start ≤ Nat.ofDigitChars 10 ds start := by
  induction ds generalizing start with
  | nil => simp
  | cons d ds ih =>
      rw [Nat.ofDigitChars_cons]
      have := ih (10 * start + (d.toNat - '0'.toNat))
      omega

theorem pushDigits_eq {ds : List Char} {start : Nat}
    (h : Nat.ofDigitChars 10 ds start ≤ maxSignificand) :
    pushDigits start ds = (Nat.ofDigitChars 10 ds start, ds.length) := by
  induction ds generalizing start with
  | nil => rfl
  | cons d ds ih =>
      rw [Nat.ofDigitChars_cons, Nat.mul_comm] at h ⊢
      have hle : start * 10 + digitValue d ≤ maxSignificand := Nat.le_trans (le_ofDigitChars ds _) h
      simp only [pushDigits, if_pos hle]
      have hi := ih h
      simp only [digitValue] at hi ⊢
      rw [hi]
      rfl

theorem wholeNumber_eq {negative : Bool} {k : Nat} {w : Whole}
    (hw : w.value = if negative then -(k : Int) else k) (hk : negative = true → k ≠ 0) :
    wholeNumber negative k = .whole w := by
  unfold wholeNumber
  dsimp only
  rw [if_neg (by rintro ⟨hn, hz⟩; exact hk hn hz), ← hw, Whole.ofInt?_value]

theorem head_toDigits_ne {k : Nat} (hk : k ≠ 0) : ∀ c ∈ (Nat.toDigits 10 k).head?, c ≠ '0' := by
  induction k using Nat.strongRecOn with
  | ind k ih =>
      rw [Nat.toDigits_eq_if (by decide)]
      split
      · rename_i hlt
        rintro c ⟨⟩ hc
        rw [Nat.digitChar_eq_zero] at hc
        omega
      · rename_i hge
        have hi := ih (k / 10) (by omega) (by omega)
        cases hd : Nat.toDigits 10 (k / 10) with
        | nil => exact absurd hd Nat.toDigits_ne_nil
        | cons d ds =>
            rw [hd] at hi
            rintro c ⟨⟩
            exact hi d rfl

theorem numberAt_toDigits {negative : Bool} {k : Nat} {w : Whole}
    (hw : w.value = if negative then -(k : Int) else k) (hk : negative = true → k ≠ 0) :
    numberAt negative (Nat.toDigits 10 k) = .ok (.whole w, []) := by
  have hafter : afterDigits negative k 0 [] = .ok (.whole w, []) := by
    unfold afterDigits
    rw [wholeNumber_eq hw hk]
    rfl
  rcases Nat.eq_zero_or_pos k with rfl | hpos
  · exact hafter
  · have hne := head_toDigits_ne (Nat.ne_of_gt hpos)
    have hall := isDigit_toDigits k
    have hval : Nat.ofDigitChars 10 (Nat.toDigits 10 k) 0 = k := Nat.ofDigitChars_ten_toDigits
    have hfit : k ≤ maxSignificand := by
      have := w.inRange
      unfold maxSignificand
      cases negative <;> simp_all <;> omega
    have hpush := pushDigits_eq (hval.symm ▸ hfit)
    rw [hval] at hpush
    have ht := @takeWhile_isDigit_append _ [] hall rfl
    have hd := @dropWhile_isDigit_append _ [] hall rfl
    rw [List.append_nil] at ht hd
    unfold numberAt
    split
    · rename_i hnil
      exact absurd hnil Nat.toDigits_ne_nil
    · rename_i c ds heq
      rw [heq] at hne hall
      rw [if_neg (hne c rfl), if_pos (hall c List.mem_cons_self)]
      dsimp only
      rw [ht, hd, hpush, Nat.sub_self]
      exact hafter

/-- The text of a whole number, after its sign, reads back as it. -/
theorem exists_intText (w : Whole) : ∃ (negative : Bool) (body : List Char),
    NumberText body ∧ intText w.value = (if negative then '-' :: body else body) ∧
      numberAt negative body = .ok (.whole w, []) := by
  cases hw : w.value with
  | ofNat k =>
      refine ⟨false, _, numberText_toDigits k, rfl, numberAt_toDigits ?_ nofun⟩
      exact hw
  | negSucc k =>
      refine ⟨true, _, numberText_toDigits (k + 1), rfl, numberAt_toDigits ?_ ?_⟩
      · exact hw
      · intro _
        omega

end Dialogue.Json
