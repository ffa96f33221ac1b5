import Dialogue.Proofs.Condition.Comparison
import Mathlib.Logic.ExistsUnique

/-!
# The six operators together

Six conditions can be written about two operands. Each is read for itself, but all of them are
decided by the one order of the two values, or by there being none. So they agree with each other:
an operator with its negation, with the two that it is made of, and with the one that says the same
the other way round.

There is no order only where both values read as numbers and one of them is no number; then `!=`
alone holds. Otherwise exactly one of `<`, `==` and `>` does.
-/
namespace Dialogue

namespace RelOp

/-- The operator holds of values in this order. Without an order between them only `!=` does. -/
def holdsIn (op : RelOp) (o : Option Ordering) : Bool := o.elim (op == .ne) op.holds

/-- The operator that says the same the other way round. -/
def converse : RelOp → RelOp
  | eq => eq
  | ne => ne
  | lt => gt
  | le => ge
  | gt => lt
  | ge => le

def ofOrdering : Ordering → RelOp
  | .lt => lt
  | .eq => eq
  | .gt => gt

theorem holdsIn_ne (o : Option Ordering) : ne.holdsIn o = !eq.holdsIn o := by
  cases o with
  | none => rfl
  | some o => cases o <;> rfl

theorem holdsIn_le (o : Option Ordering) : le.holdsIn o = (lt.holdsIn o || eq.holdsIn o) := by
  cases o with
  | none => rfl
  | some o => cases o <;> rfl

theorem holdsIn_swap (op : RelOp) (o : Option Ordering) :
    op.converse.holdsIn (o.map Ordering.swap) = op.holdsIn o := by
  cases o with
  | none => cases op <;> rfl
  | some o => cases op <;> cases o <;> rfl

theorem holdsIn_ge (o : Option Ordering) : ge.holdsIn o = (gt.holdsIn o || eq.holdsIn o) := by
  rw [← holdsIn_swap ge, ← holdsIn_swap gt, ← holdsIn_swap eq]
  exact holdsIn_le _

theorem holdsIn_some_iff {op : RelOp} (h : op ∈ [lt, eq, gt]) (o : Ordering) :
    op.holdsIn (some o) = true ↔ op = ofOrdering o := by
  simp only [List.mem_cons, List.not_mem_nil, or_false] at h
  rcases h with rfl | rfl | rfl <;> cases o <;> decide

theorem not_lt_and_gt (o : Option Ordering) : ¬ (lt.holdsIn o = true ∧ gt.holdsIn o = true) := by
  cases o with
  | none => nofun
  | some o =>
      rw [holdsIn_some_iff (by decide), holdsIn_some_iff (by decide)]
      rintro ⟨hlt, hgt⟩
      cases hlt.trans hgt.symm

/-- Of the operators for one order alone exactly one holds. -/
theorem existsUnique_holdsIn (o : Ordering) :
    ∃! op, op ∈ [lt, eq, gt] ∧ op.holdsIn (some o) = true := by
  have hmem : ofOrdering o ∈ [lt, eq, gt] := by cases o <;> decide
  refine ⟨ofOrdering o, ⟨hmem, (holdsIn_some_iff hmem o).2 rfl⟩, ?_⟩
  rintro op ⟨hop, hholds⟩
  exact (holdsIn_some_iff hop o).1 hholds

end RelOp

theorem Reading.compare?_swap (a b : Reading) :
    compare? b a = (compare? a b).map Ordering.swap := by
  cases a with
  | finite x =>
      cases b with
      | finite y => exact congrArg some Std.OrientedCmp.eq_swap
      | infinite t => cases t <;> rfl
      | notANumber => rfl
  | infinite s =>
      cases b with
      | finite y => cases s <;> rfl
      | infinite t => cases s <;> cases t <;> rfl
      | notANumber => rfl
  | notANumber => cases b <;> rfl

namespace Json

variable {left right : Json}

theorem order?_of_unread (h : left.reading? = none ∨ right.reading? = none) :
    order? left right = some (compare left.shown right.shown) := by
  rw [order?]
  rcases h with h | h
  · rw [h]
  · rw [h]
    cases left.reading? <;> rfl

theorem order?_swap (left right : Json) :
    order? right left = (order? left right).map Ordering.swap := by
  by_cases h : left.reading? = none ∨ right.reading? = none
  · rw [order?_of_unread h, order?_of_unread h.symm]
    exact congrArg some Std.OrientedCmp.eq_swap
  · obtain ⟨hl, hr⟩ := not_or.1 h
    obtain ⟨a, ha⟩ := Option.ne_none_iff_exists'.1 hl
    obtain ⟨b, hb⟩ := Option.ne_none_iff_exists'.1 hr
    rw [order?, order?, ha, hb]
    exact Reading.compare?_swap a b

end Json

namespace Condition

variable {left right : Expr} {l r : List Char}

/-- All conditions about two operands are decided by one order. -/
theorem holds_relating (hl : Operand left l) (hr : Operand right r) (ctx : Context) (op : RelOp) :
    ctx.holds (relating l op r) =
      op.holdsIn (Json.order? (left.evaluate ctx) (right.evaluate ctx)) :=
  holds_relating_of_operand hl hr.operand_behind_blank op

theorem holds_relating_converse (hl : Operand left l) (hr : Operand right r) (ctx : Context)
    (op : RelOp) : ctx.holds (relating r op.converse l) = ctx.holds (relating l op r) := by
  rw [holds_relating hr hl, holds_relating hl hr, Json.order?_swap, op.holdsIn_swap]

/-- The six conditions about two operands agree: `!=` is the negation of `==`, `<=` and `>=` are
made of `==` and of `<` or `>`, and these two never both hold. The other way round `>` says what `<`
says, and `==` says the same. Where the two values do not both read as numbers, exactly one of `<`,
`==` and `>` holds. -/
theorem holds_operators_agree (hl : Operand left l) (hr : Operand right r) (ctx : Context) :
    let held (op : RelOp) := ctx.holds (relating l op r)
    let back (op : RelOp) := ctx.holds (relating r op l)
    held .ne = !held .eq ∧ held .le = (held .lt || held .eq) ∧ held .ge = (held .gt || held .eq) ∧
      ¬ (held .lt = true ∧ held .gt = true) ∧ held .lt = back .gt ∧ held .eq = back .eq ∧
      ((left.evaluate ctx).reading? = none ∨ (right.evaluate ctx).reading? = none →
        ∃! op, op ∈ [RelOp.lt, .eq, .gt] ∧ held op = true) := by
  intro held back
  have hheld : held = fun op => op.holdsIn (Json.order? (left.evaluate ctx) (right.evaluate ctx)) :=
    funext (holds_relating hl hr ctx)
  have hback (op : RelOp) : held op = back op.converse :=
    (holds_relating_converse hl hr ctx op).symm
  refine ⟨?_, ?_, ?_, ?_, hback .lt, hback .eq, ?_⟩
  · rw [hheld]
    exact RelOp.holdsIn_ne _
  · rw [hheld]
    exact RelOp.holdsIn_le _
  · rw [hheld]
    exact RelOp.holdsIn_ge _
  · rw [hheld]
    exact RelOp.not_lt_and_gt _
  · intro hunread
    rw [hheld, Json.order?_of_unread hunread]
    exact RelOp.existsUnique_holdsIn _

/-- A list is equal to its text, and none of the operators inside the two operands is read. -/
theorem holds_operators_listed :
    let ctx : Context :=
      { vars := Variables.set {} "rows" (.arr [.obj [("a<b", .str "==")]]) }
    let items : Expr := .map (.path .vars ["rows"]) "a<b"
    let quoted := '\'' :: ("[\"==\"]".toList ++ ['\''])
    Operand items items.chars ∧ Operand (.literal "[\"==\"]") quoted ∧
      (items.evaluate ctx).reading? = none ∧
      relating items.chars .le quoted = "$map($vars.rows, 'a<b') <= '[\"==\"]'" ∧
      ctx.holds "$map($vars.rows, 'a<b') == '[\"==\"]'" = true ∧
      ctx.holds "$map($vars.rows, 'a<b') <= '[\"==\"]'" = true ∧
      ctx.holds "$map($vars.rows, 'a<b') != '[\"==\"]'" = false ∧
      ctx.holds "$map($vars.rows, 'a<b') < '[\"==\"]'" = false := by
  intro ctx items quoted
  have hrows : ∀ s ∈ ["rows"], IsSegment s := by decide
  have hproper : items.IsProper := ⟨hrows, .inl (by decide)⟩
  have hleft : Operand items items.chars := .expression (Expr.spelled_chars hproper)
  have hright : Operand (.literal "[\"==\"]") quoted := .quoted (.inl rfl) (by decide)
  have hunread : (items.evaluate ctx).reading? = none := by decide +kernel
  have hequal : relating items.chars .eq quoted = "$map($vars.rows, 'a<b') == '[\"==\"]'" := by
    decide +kernel
  have hatMost : relating items.chars .le quoted = "$map($vars.rows, 'a<b') <= '[\"==\"]'" := by
    decide +kernel
  have hother : relating items.chars .ne quoted = "$map($vars.rows, 'a<b') != '[\"==\"]'" := by
    decide +kernel
  have hless : relating items.chars .lt quoted = "$map($vars.rows, 'a<b') < '[\"==\"]'" := by
    decide +kernel
  have heq : ctx.holds "$map($vars.rows, 'a<b') == '[\"==\"]'" = true := by decide +kernel
  obtain ⟨hne, hle, -, -, -, -, hone⟩ := holds_operators_agree hleft hright ctx
  obtain ⟨op, -, honly⟩ := hone (.inl hunread)
  dsimp only at hne hle honly
  rw [hother, hequal, heq] at hne
  rw [hatMost, hless, hequal, heq, Bool.or_true] at hle
  have hlt : ctx.holds "$map($vars.rows, 'a<b') < '[\"==\"]'" ≠ true := by
    intro h
    have hop := honly .eq ⟨by decide, hequal ▸ heq⟩
    have hop' := honly .lt ⟨by decide, hless ▸ h⟩
    cases hop.trans hop'.symm
  exact ⟨hleft, hright, hunread, hatMost, heq, hle, hne, Bool.eq_false_iff.2 hlt⟩

end Condition

end Dialogue
