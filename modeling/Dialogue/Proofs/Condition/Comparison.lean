import Dialogue.Proofs.Condition.Text
import Dialogue.Proofs.Number.Text

/-!
# Comparing a variable

A comparison of a variable with a text is evaluated on the variable's value and the text that the
operand stands for. Two texts that both read as numbers are compared as numbers, so a text equals
itself unless it reads as no number: `nan` differs from itself, in every spelling.

Whole numbers are compared by the binary64 numbers nearest to them. Two of them that have the same
nearest number count as equal, others compare as they are; up to `2 ^ 53` no two have the same.
-/
namespace Dialogue

/-- The relation that an operator stands for, on whole numbers. -/
def RelOp.Relates : RelOp → Int → Int → Prop
  | .eq, m, n => m = n
  | .ne, m, n => m ≠ n
  | .lt, m, n => m < n
  | .le, m, n => m ≤ n
  | .gt, m, n => n < m
  | .ge, m, n => n ≤ m

theorem RelOp.holds_compare_iff (op : RelOp) (m n : Int) :
    op.holds (compare m n) = true ↔ op.Relates m n := by
  rcases Int.lt_trichotomy m n with h | h | h
  · rw [Int.compare_eq_lt.2 h]
    cases op <;> simp [holds, Relates] <;> omega
  · rw [Int.compare_eq_eq.2 h]
    cases op <;> simp [holds, Relates] <;> omega
  · rw [Int.compare_eq_gt.2 h]
    cases op <;> simp [holds, Relates] <;> omega

instance (op : RelOp) (m n : Int) : Decidable (op.Relates m n) :=
  decidable_of_iff _ (op.holds_compare_iff m n)

namespace Condition

variable {ctx : Context} {x : String} {v : Json} {a b : Whole}

/-- Two operands around an operator, with a blank on either side of it. -/
def relating (l : List Char) (op : RelOp) (r : List Char) : String :=
  String.ofList (l ++ ' ' :: (op.symbol.toList ++ ' ' :: r))

theorem holds_relating_of_operand {left right : Expr} {l r : List Char} (hl : Operand left l)
    (hr : operand (' ' :: r) = right) (op : RelOp) :
    ctx.holds (relating l op r) =
      (Json.order? (left.evaluate ctx) (right.evaluate ctx)).elim (op == .ne) op.holds := by
  rw [Context.holds, relating, ofText_spaced hl op r, hr, evaluate]
  cases Json.order? (left.evaluate ctx) (right.evaluate ctx) <;> rfl

/-- A comparison of a variable with what stands behind the operator. -/
def comparing (x : String) (op : RelOp) (right : String) : String :=
  "$vars." ++ x ++ " " ++ op.symbol ++ " " ++ right

theorem spelled_variable (hx : IsSegment x) :
    (Expr.path .vars [x]).Spelled ("$vars.".toList ++ x.toList) := by
  have hsegments : ∀ s ∈ [x], IsSegment s := List.forall_mem_singleton.2 hx
  have hspelled := Expr.Spelled.path .vars hsegments
  rw [segmentsText, List.flatMap_singleton] at hspelled
  exact hspelled

theorem evaluate_variable (h : ctx.vars.get? x = some v) :
    (Expr.path .vars [x]).evaluate ctx = v := by
  rw [Expr.evaluate, Expr.resolve, h]
  rfl

theorem holds_comparing (hx : IsSegment x) (hv : ctx.vars.get? x = some v) (op : RelOp)
    {right : String} {e : Expr} (hr : operand (' ' :: right.toList) = e) :
    ctx.holds (comparing x op right) =
      (Json.order? v (e.evaluate ctx)).elim (op == .ne) op.holds := by
  have hsource : comparing x op right =
      relating ("$vars.".toList ++ x.toList) op right.toList := by
    rw [← String.toList_inj, relating, String.toList_ofList]
    simp [comparing]
  rw [hsource, holds_relating_of_operand (.expression (spelled_variable hx)) hr,
    evaluate_variable hv]

theorem reading?_str (s : String) :
    (Json.str s).reading? = Reading.ofText? (Text.trim s.toList) := by
  cases ht : Text.trim s.toList with
  | nil =>
      rw [Json.reading?, ht]
      rfl
  | cons c cs =>
      rw [Json.reading?, ht]
      rfl

theorem order?_self (s : String) :
    Json.order? (.str s) (.str s) =
      if Reading.ofText? (Text.trim s.toList) = some .notANumber then none else some .eq := by
  rw [Json.order?, reading?_str]
  cases Reading.ofText? (Text.trim s.toList) with
  | none => simp
  | some r => cases r <;> simp [Reading.compare?]

/-- A variable that holds a text equals the literal of that text in every case but one, in which it
differs from it. -/
theorem holds_own_literal (hx : IsSegment x) {s : String} (hv : ctx.vars.get? x = some (.str s))
    {quote : Char} (hq : quote = '\'' ∨ quote = '"') (hs : quote ∉ s.toList) :
    let literal := String.ofList (quote :: (s.toList ++ [quote]))
    (ctx.holds (comparing x .eq literal) = true ↔ ¬ Reading.WritesNan (Text.trim s.toList)) ∧
      (ctx.holds (comparing x .ne literal) = true ↔ Reading.WritesNan (Text.trim s.toList)) := by
  intro literal
  have hliteral : operand (' ' :: literal.toList) = .literal s := by
    rw [String.toList_ofList]
    exact (Operand.quoted hq hs).operand_behind_blank
  rw [holds_comparing hx hv .eq hliteral, holds_comparing hx hv .ne hliteral, Expr.evaluate,
    order?_self, ← Reading.ofText?_eq_nan_iff]
  by_cases h : Reading.ofText? (Text.trim s.toList) = some .notANumber
  · rw [if_pos h]
    simp [h]
  · rw [if_neg h]
    simp [h, RelOp.holds]

/-- Neither an operator nor the other quote inside a text takes part in its comparison. -/
theorem holds_literal_with_operator :
    let s := "it's == (1"
    let ctx : Context := { vars := Variables.set {} "x" (.str s) }
    let literal := "\"it's == (1\""
    IsSegment "x" ∧ ctx.vars.get? "x" = some (.str s) ∧ '"' ∉ s.toList ∧
      ctx.holds (comparing "x" .eq literal) = true ∧
      ctx.holds (comparing "x" .ne literal) = false := by
  intro s ctx literal
  have hx : IsSegment "x" := ⟨by decide, List.all_eq_true.1 (by decide)⟩
  have hv : ctx.vars.get? "x" = some (.str s) := by decide +kernel
  have hlacks : '"' ∉ s.toList := by decide
  have hheld := holds_own_literal hx hv (.inr rfl) hlacks
  have hliteral : String.ofList ('"' :: (s.toList ++ ['"'])) = literal := by decide +kernel
  have hread : Reading.ofText? (Text.trim s.toList) ≠ some .notANumber := by decide +kernel
  rw [hliteral, ← Reading.ofText?_eq_nan_iff] at hheld
  exact ⟨hx, hv, hlacks, hheld.1.2 hread, Bool.eq_false_iff.2 fun h => hread (hheld.2.1 h)⟩

/-- A text that writes no number differs from its own literal. -/
theorem nan_differs_from_own_literal :
    let ctx : Context := { vars := Variables.set {} "x" (.str "NaN") }
    ctx.vars.get? "x" = some (.str "NaN") ∧ '\'' ∉ "NaN".toList ∧
      comparing "x" .eq "'NaN'" = "$vars.x == 'NaN'" ∧
      ctx.holds "$vars.x == 'NaN'" = false ∧ ctx.holds "$vars.x != 'NaN'" = true := by
  decide +kernel

theorem isSegment_toString (n : Int) : IsSegment (toString n) := by
  rw [IsSegment, toList_toString]
  refine ⟨by simp [Nat.toDigits_ne_nil], ?_⟩
  intro c hc
  rcases List.mem_append.1 hc with hc | hc
  · have hsign : c = '-' := by
      split at hc
      · exact List.mem_singleton.1 hc
      · cases hc
    rw [hsign]
    decide
  · exact isSegmentChar_of_isDigit (isDigit_toDigits _ c hc)

/-- No blank is trimmed off a word of segment characters, and none around it is left. -/
theorem trim_of_isSegment {w : String} (h : IsSegment w) {before : List Char}
    (hb : ∀ c ∈ before, Text.isBlank c = true) : Text.trim (before ++ w.toList) = w.toList := by
  obtain ⟨hne, hchars⟩ := h
  have hblank : ∀ c ∈ w.toList, Text.isBlank c = false :=
    fun c hc => Expr.isBlank_of_isPathChar (by simp [isPathChar, hchars c hc])
  have htrim : Text.trim (before ++ (w.toList ++ [])) = w.toList :=
    Text.trim_append hb (List.forall_mem_nil _) hne (hblank _ (List.head_mem hne))
      (hblank _ (List.getLast_mem hne))
  rwa [List.append_nil] at htrim

theorem eq_cons_of_isSegment {w : String} (h : IsSegment w) :
    ∃ c cs, w.toList = c :: cs ∧ isPathChar c = true := by
  obtain ⟨hne, hchars⟩ := h
  obtain ⟨c, cs, hw⟩ := List.exists_cons_of_ne_nil hne
  exact ⟨c, cs, hw, by simp [isPathChar, hchars c (hw ▸ List.mem_cons_self)]⟩

theorem isMarked_of_isSegment {w : String} (h : IsSegment w) : Expr.isMarked w = false := by
  obtain ⟨c, cs, hw, hc⟩ := eq_cons_of_isSegment h
  have hstart : Text.trimStart (c :: cs) = c :: cs :=
    List.dropWhile_cons_of_neg (by simp [Expr.isBlank_of_isPathChar hc])
  have hmark : c ≠ '$' := by
    rintro rfl
    exact absurd hc (by decide)
  simp [Expr.isMarked, hw, hstart, hmark]

theorem operand_of_isSegment {w : String} (h : IsSegment w) :
    operand (' ' :: w.toList) = .literal w := by
  have hspace : ∀ c ∈ [' '], Text.isBlank c = true := List.forall_mem_singleton.2 (by decide)
  have htrim : Text.trim ([' '] ++ w.toList) = w.toList := trim_of_isSegment h hspace
  rw [List.singleton_append] at htrim
  have hunquoted : unquote? w.toList = none := by
    obtain ⟨c, cs, hw, hc⟩ := eq_cons_of_isSegment h
    rw [hw]
    apply unquote?_of_head
    constructor <;> rintro rfl <;> exact absurd hc (by decide)
  rw [operand, htrim, hunquoted]
  simp [Expr.ofText, Expr.ofText?, isMarked_of_isSegment h]

/-- A whole number and the text of another one compare as the numbers nearest to them. -/
theorem order?_toString (a b : Whole) :
    Json.order? (.num (.whole a)) (.str (toString b.value)) =
      some (Ord.compare (Number.whole a).toBinary64.steps (Number.whole b).toBinary64.steps) := by
  have hleft : (Json.num (.whole a)).reading? = some (.finite (Number.whole a).toBinary64) := by
    rw [Json.reading?, Number.reading, a.ofInt_value]
  have hright : (Json.str (toString b.value)).reading? =
      some (.finite (Number.whole b).toBinary64) := by
    have htrim : Text.trim ([] ++ (toString b.value).toList) = (toString b.value).toList :=
      trim_of_isSegment (isSegment_toString b.value) nofun
    rw [List.nil_append] at htrim
    rw [reading?_str, htrim, Reading.ofText?_toString, b.ofInt_value]
  rw [Json.order?, hleft, hright]
  rfl

/-- A variable that holds a whole number compares with another one as the nearest binary64 numbers
do, and so as the whole numbers themselves do, unless these are different and have the same nearest
number. -/
theorem holds_whole_iff (hx : IsSegment x) (hv : ctx.vars.get? x = some (.num (.whole a)))
    (op : RelOp) :
    let nearA := (Number.whole a).toBinary64
    let nearB := (Number.whole b).toBinary64
    let held := ctx.holds (comparing x op (toString b.value))
    nearA.IsNearest a.value 1 ∧ nearB.IsNearest b.value 1 ∧
      (held = true ↔ op.Relates nearA.steps nearB.steps) ∧
      (a = b ∨ nearA.steps ≠ nearB.steps → (held = true ↔ op.Relates a.value b.value)) ∧
      (a.value.natAbs ≤ pow2 53 → b.value.natAbs ≤ pow2 53 →
        (held = true ↔ op.Relates a.value b.value)) := by
  intro nearA nearB held
  have hheld : held = op.holds (Ord.compare nearA.steps nearB.steps) := by
    have hright := operand_of_isSegment (isSegment_toString b.value)
    change ctx.holds _ = _
    rw [holds_comparing hx hv op hright, Expr.evaluate, order?_toString]
    rfl
  have hexact : a = b ∨ nearA.steps ≠ nearB.steps → (held = true ↔ op.Relates a.value b.value) := by
    intro h
    rw [hheld, Whole.compare_steps h, op.holds_compare_iff]
  refine ⟨a.isNearest_toBinary64, b.isNearest_toBinary64, ?_, hexact, ?_⟩
  · rw [hheld, op.holds_compare_iff]
  · intro ha hb
    apply hexact
    by_cases h : nearA.steps = nearB.steps
    · exact .inl (Whole.eq_of_steps_eq ha hb h)
    · exact .inr h

/-- Two whole numbers that are next to each other, with different nearest numbers. -/
theorem holds_wide_neighbours :
    let a : Whole := ⟨9007199254740993, by decide⟩
    let b : Whole := ⟨9007199254740994, by decide⟩
    let ctx : Context := { vars := Variables.set {} "x" (.num (.whole a)) }
    IsSegment "x" ∧ ctx.vars.get? "x" = some (.num (.whole a)) ∧
      ctx.holds (comparing "x" .lt (toString b.value)) = true := by
  intro a b ctx
  have hx : IsSegment "x" := ⟨by decide, List.all_eq_true.1 (by decide)⟩
  have hv : ctx.vars.get? "x" = some (.num (.whole a)) := by decide +kernel
  have hsteps : (Number.whole a).toBinary64.steps ≠ (Number.whole b).toBinary64.steps := by
    decide +kernel
  have hless : RelOp.lt.Relates a.value b.value := by decide
  obtain ⟨-, -, -, hexact, -⟩ := holds_whole_iff hx hv .lt
  exact ⟨hx, hv, (hexact (.inr hsteps)).2 hless⟩

/-- A whole number equals its neighbour if both have the same nearest number. -/
theorem holds_eq_of_wide_neighbours :
    let a : Whole := ⟨9007199254740993, by decide⟩
    let b : Whole := ⟨9007199254740992, by decide⟩
    let ctx : Context := { vars := Variables.set {} "x" (.num (.whole a)) }
    ctx.vars.get? "x" = some (.num (.whole a)) ∧ a.value ≠ b.value ∧
      comparing "x" .eq (toString b.value) = "$vars.x == 9007199254740992" ∧
      ctx.holds "$vars.x == 9007199254740992" = true := by
  decide +kernel

end Condition

end Dialogue
