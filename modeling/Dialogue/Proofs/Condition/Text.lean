import Dialogue.Condition
import Dialogue.Proofs.Expression.Grammar

/-!
# The text of conditions

The operator of a condition is searched without regard to the grammar of expressions: the search
knows quotes and the number of open parentheses and nothing else. A text is closed if the search
passes over it at any depth and goes on behind it as it came. Closed texts can be joined, enclosed
in parentheses and put between quotes, so whatever spells an expression or quotes a text is closed.

The first operator that is met behind a closed text is therefore the one that was written there, and
a condition is read back from its two operands and the operator, or from its one expression,
whatever stands between quotes inside them.
-/
namespace Dialogue

namespace RelOp

/-- The operator that was written is read, unless what stands behind makes a longer one of it. -/
theorem read?_symbol (op : RelOp) {rest : List Char} (h : '=' ∉ rest.head?) :
    read? (op.symbol.toList ++ rest) = some (op, rest) := by
  cases op with
  | eq | ne | le | ge => rfl
  | lt | gt =>
      cases rest with
      | nil => rfl
      | cons c rest =>
          have hc : c ≠ '=' := fun e => h (e ▸ rfl)
          simp [symbol, read?, hc]

theorem symbol_eq_cons (op : RelOp) :
    ∃ c cs, op.symbol.toList = c :: cs ∧ c ∉ ['\'', '"', '(', ')'] := by
  cases op <;> exact ⟨_, _, rfl, by decide⟩

end RelOp

namespace Condition

/-- The characters that the search looks at. -/
def significant : List Char := ['\'', '"', '(', ')', '=', '!', '<', '>']

def isSignificant (c : Char) : Bool := c ∈ significant

theorem isSignificant_of_any {p : Char → Bool} (hp : significant.any p = false) {c : Char}
    (h : p c = true) : isSignificant c = false := by
  rw [isSignificant, decide_eq_false_iff_not]
  intro hc
  exact List.any_eq_false.1 hp c hc h

/-- What was found behind a text, as found in the whole. -/
def behind (text : List Char) (found : List Char × RelOp × List Char) :
    List Char × RelOp × List Char :=
  (text ++ found.1, found.2)

/-- The search passes over the text at any depth and goes on behind it as it came. -/
def Closed (text : List Char) : Prop :=
  ∀ depth rest, split? depth none (text ++ rest) = (split? depth none rest).map (behind text)

theorem map_behind_append (text more : List Char) (found : Option (List Char × RelOp × List Char)) :
    (found.map (behind more)).map (behind text) = found.map (behind (text ++ more)) := by
  cases found with
  | none => rfl
  | some found => simp [behind]

theorem closed_nil : Closed [] := by
  intro depth rest
  exact Option.map_id'.symm

theorem Closed.append {text more : List Char} (h : Closed text) (h' : Closed more) :
    Closed (text ++ more) := by
  intro depth rest
  rw [List.append_assoc, h, h', map_behind_append]

theorem closed_singleton {c : Char} (h : isSignificant c = false) : Closed [c] := by
  intro depth rest
  simp only [isSignificant, significant, decide_eq_false_iff_not, List.mem_cons,
    List.not_mem_nil, or_false, not_or] at h
  obtain ⟨hsingle, hdouble, hopen, hclose, heq, hne, hlt, hgt⟩ := h
  have hread : RelOp.read? (c :: rest) = none := by
    unfold RelOp.read?
    split <;> simp_all
  rw [List.singleton_append, split?]
  simp only [hsingle, hdouble, hopen, hclose, or_self, if_false, hread, ite_self]
  rfl

theorem closed_of_plain {text : List Char} (h : ∀ c ∈ text, isSignificant c = false) :
    Closed text := by
  induction text with
  | nil => exact closed_nil
  | cons c text ih =>
      have hc : Closed [c] := closed_singleton (h c List.mem_cons_self)
      exact hc.append (ih fun d hd => h d (List.mem_cons_of_mem c hd))

/-- Between quotes the search waits for the quote that was opened. -/
theorem split?_quoted {quote : Char} {text : List Char} (h : quote ∉ text) (depth : Nat)
    (rest : List Char) :
    split? depth (some quote) (text ++ quote :: rest) =
      (split? depth none rest).map (behind (text ++ [quote])) := by
  induction text with
  | nil =>
      rw [List.nil_append, split?]
      simp only [if_true]
      rfl
  | cons c text ih =>
      have hc : c ≠ quote := fun e => h (e ▸ List.mem_cons_self)
      rw [List.cons_append, split?]
      simp only [hc, if_false, ih fun hm => h (List.mem_cons_of_mem c hm), Option.map_map]
      rfl

theorem closed_quoted {quote : Char} (hq : quote = '\'' ∨ quote = '"') {text : List Char}
    (h : quote ∉ text) : Closed (quote :: (text ++ [quote])) := by
  intro depth rest
  rw [List.cons_append, List.append_assoc, List.singleton_append, split?]
  simp only [hq, if_true, split?_quoted h, Option.map_map]
  rfl

theorem split?_open (depth : Nat) (rest : List Char) :
    split? depth none ('(' :: rest) = (split? (depth + 1) none rest).map (behind ['(']) := by
  rw [split?]
  rfl

theorem split?_close (depth : Nat) (rest : List Char) :
    split? (depth + 1) none (')' :: rest) = (split? depth none rest).map (behind [')']) := by
  rw [split?]
  rfl

theorem Closed.parenthesized {text : List Char} (h : Closed text) :
    Closed ('(' :: (text ++ [')'])) := by
  intro depth rest
  rw [List.cons_append, List.append_assoc, List.singleton_append, split?_open, h, split?_close,
    map_behind_append, map_behind_append]
  rfl

theorem isSignificant_of_isPathChar {c : Char} (h : isPathChar c = true) :
    isSignificant c = false :=
  isSignificant_of_any (by decide) h

theorem isSignificant_of_isBlank {c : Char} (h : Text.isBlank c = true) :
    isSignificant c = false :=
  isSignificant_of_any (by decide) h

theorem closed_blanks {text : List Char} (h : ∀ c ∈ text, Text.isBlank c = true) : Closed text :=
  closed_of_plain fun c hc => isSignificant_of_isBlank (h c hc)

theorem closed_gap {text : List Char} (h : Gap text) : Closed text :=
  closed_blanks fun c hc => Expr.isBlank_of_isGap (h c hc)

end Condition

open Condition in
/-- However an expression is spelled, the search for an operator passes over it. -/
theorem Expr.Spelled.closed {e : Expr} {text : List Char} (h : e.Spelled text) : Closed text := by
  induction h with
  | path root hs =>
      apply closed_of_plain
      intro c hc
      rcases List.mem_cons.1 hc with rfl | hc
      · decide
      · apply isSignificant_of_isPathChar
        rcases List.mem_append.1 hc with hc | hc
        · exact isPathChar_of_mem_name root c hc
        · exact isPathChar_of_mem_segmentsText hs c hc
  | @len inner cs g₁ g₂ g₃ _ h₁ h₂ h₃ ih =>
      have hname : Closed "$len".toList := closed_of_plain (by simp [isSignificant, significant])
      have hinside := ((closed_gap h₂).append (ih.append (closed_gap h₃))).parenthesized
      have htext := hname.append ((closed_gap h₁).append hinside)
      simpa only [List.append_assoc] using htext
  | @map source property quote cs g₁ g₂ g₃ g₄ g₅ _ hq hp h₁ h₂ h₃ h₄ h₅ ih =>
      have hname : Closed "$map".toList := closed_of_plain (by simp [isSignificant, significant])
      have hcomma : Closed [','] := closed_singleton (by decide)
      have hproperty := (closed_quoted hq hp).append (closed_gap h₅)
      have hbehind := hcomma.append ((closed_gap h₄).append hproperty)
      have hsource := (closed_gap h₂).append (ih.append ((closed_gap h₃).append hbehind))
      have htext := hname.append ((closed_gap h₁).append hsource.parenthesized)
      simpa only [List.append_assoc, List.cons_append, List.nil_append] using htext

namespace Condition

/-- The text of an operand without the blanks around it: the text of an expression, or a text
between quotes that it does not hold. -/
inductive Operand : Expr → List Char → Prop
  | expression {e : Expr} {text : List Char} (h : e.Spelled text) : Operand e text
  | quoted {quote : Char} {s : String} (hq : quote = '\'' ∨ quote = '"') (h : quote ∉ s.toList) :
      Operand (.literal s) (quote :: (s.toList ++ [quote]))

variable {e left right : Expr} {l r text : List Char}

theorem Operand.closed (h : Operand e text) : Closed text := by
  cases h with
  | expression h => exact h.closed
  | quoted hq h => exact closed_quoted hq h

theorem Operand.trim_append (h : Operand e text) {before after : List Char}
    (hb : ∀ c ∈ before, Text.isBlank c = true) (ha : ∀ c ∈ after, Text.isBlank c = true) :
    Text.trim (before ++ (text ++ after)) = text := by
  cases h with
  | expression h => exact h.trim_append hb ha
  | @quoted quote s hq _ =>
      have hquote : Text.isBlank quote = false := by rcases hq with rfl | rfl <;> decide
      exact Text.trim_append hb ha (List.cons_ne_nil _ _) (by simpa using hquote)
        (by simpa using hquote)

theorem unquote?_quoted {quote : Char} (hq : quote = '\'' ∨ quote = '"') (cs : List Char) :
    unquote? (quote :: (cs ++ [quote])) = some cs := by
  simp [unquote?, hq]

theorem unquote?_of_head {c : Char} (h : c ≠ '\'' ∧ c ≠ '"') (cs : List Char) :
    unquote? (c :: cs) = none := by
  simp [unquote?, h.1, h.2]

theorem Operand.operand_eq (h : Operand e text) {before after : List Char}
    (hb : ∀ c ∈ before, Text.isBlank c = true) (ha : ∀ c ∈ after, Text.isBlank c = true) :
    operand (before ++ (text ++ after)) = e := by
  rw [operand, h.trim_append hb ha]
  cases h with
  | expression h =>
      obtain ⟨cs, hcs⟩ := h.eq_cons
      have hnone : unquote? text = none := hcs ▸ unquote?_of_head (by decide) cs
      rw [hnone]
      exact h.ofText_eq
  | @quoted quote s hq _ =>
      rw [unquote?_quoted hq]
      simp only [String.ofList_toList]

theorem Operand.operand_behind_blank (h : Operand e text) : operand (' ' :: text) = e := by
  have hblank : ∀ c ∈ [' '], Text.isBlank c = true := List.forall_mem_singleton.2 (by decide)
  have hread : operand ([' '] ++ (text ++ [])) = e := h.operand_eq hblank nofun
  rwa [List.singleton_append, List.append_nil] at hread

theorem split?_symbol (op : RelOp) (h : '=' ∉ r.head?) :
    split? 0 none (op.symbol.toList ++ r) = some ([], op, r) := by
  have hread := op.read?_symbol h
  obtain ⟨c, cs, hop, hc⟩ := op.symbol_eq_cons
  simp only [List.mem_cons, List.not_mem_nil, or_false, not_or] at hc
  obtain ⟨hsingle, hdouble, hopen, hclose⟩ := hc
  rw [hop, List.cons_append] at hread ⊢
  rw [split?]
  simp only [hsingle, hdouble, hopen, hclose, or_self, if_false, if_true, hread]

/-- The operator behind a closed text is the one that decides. -/
theorem ofText_compare (hl : Closed l) (op : RelOp) (hr : '=' ∉ r.head?) :
    ofText (String.ofList (l ++ (op.symbol.toList ++ r))) = compare (operand l) op (operand r) := by
  rw [ofText, String.toList_ofList, hl, split?_symbol op hr]
  simp [behind]

theorem ofText_spaced (hl : Operand left l) (op : RelOp) (r : List Char) :
    ofText (String.ofList (l ++ ' ' :: (op.symbol.toList ++ ' ' :: r))) =
      compare left op (operand (' ' :: r)) := by
  have hblank : ∀ c ∈ [' '], Text.isBlank c = true := List.forall_mem_singleton.2 (by decide)
  have hleft : operand ([] ++ (l ++ [' '])) = left := hl.operand_eq nofun hblank
  have hclosed : Closed (l ++ [' ']) := hl.closed.append (closed_blanks hblank)
  have hright : '=' ∉ (' ' :: r).head? := by simp
  have hread := ofText_compare hclosed op hright
  rw [List.nil_append] at hleft
  rwa [hleft, List.append_assoc] at hread

theorem Closed.split?_eq_none (h : Closed text) : split? 0 none text = none := by
  have hnil := h 0 []
  rwa [List.append_nil] at hnil

theorem ofText_truthy (h : e.Spelled text) : ofText (String.ofList text) = truthy e := by
  have htrim : Text.trim text = text := by
    have hends : Text.trim ([] ++ (text ++ [])) = text := h.trim_append nofun nofun
    rwa [List.nil_append, List.append_nil] at hends
  rw [ofText, String.toList_ofList, h.closed.split?_eq_none, Text.trimmed, String.toList_ofList,
    htrim]
  simp only [h.ofText_eq]

/-- A condition is read back from what it was written from: a comparison from its two operands and
the operator between blanks, and a test of one expression from that expression. -/
theorem ofText_reads_written :
    (∀ {left right : Expr} {l r : List Char} (op : RelOp), Operand left l → Operand right r →
      ofText (String.ofList (l ++ ' ' :: (op.symbol.toList ++ ' ' :: r))) =
        compare left op right) ∧
    ∀ {e : Expr} {text : List Char}, e.Spelled text →
      ofText (String.ofList text) = truthy e := by
  constructor
  · intro left right l r op hl hr
    rw [ofText_spaced hl, hr.operand_behind_blank]
  · intro e text h
    exact ofText_truthy h

/-- Neither a property nor a quoted text takes part in the search, whatever they hold. -/
theorem ofText_reads_quoted_operators :
    let items : Expr := .map (.path .vars ["a-1"]) ")<\""
    let text := "$map($vars.a-1, ')<\"')"
    let source := "$map($vars.a-1, ')<\"') >= \"$x == '(\""
    items.Spelled text.toList ∧ Operand (.literal "$x == '(") "\"$x == '(\"".toList ∧
      ofText source = compare items .ge (.literal "$x == '(") ∧ ofText text = truthy items := by
  intro items text source
  have hsegment : ∀ s ∈ ["a-1"], IsSegment s := by
    intro s hs
    rw [List.mem_singleton.1 hs]
    exact ⟨by decide, List.all_eq_true.1 (by decide)⟩
  have hspace : Gap [' '] := by simp [Gap, isGap]
  have hproperty : '\'' ∉ ")<\"".toList := by decide
  have hlacks : '"' ∉ "$x == '(".toList := by decide
  have hspelled := Expr.Spelled.map (.path .vars hsegment) (.inl rfl) hproperty Expr.gap_nil
    Expr.gap_nil Expr.gap_nil hspace Expr.gap_nil
  have hitems : items.Spelled text.toList := by
    convert hspelled using 1
    decide
  have hquoted : Operand (.literal "$x == '(") "\"$x == '(\"".toList := by
    convert Operand.quoted (.inr rfl) hlacks using 1
    decide
  have hcompare := ofText_reads_written.1 .ge (.expression hitems) hquoted
  have hsource : text.toList ++ ' ' :: (RelOp.ge.symbol.toList ++ ' ' :: "\"$x == '(\"".toList) =
      source.toList := by decide
  rw [hsource, String.ofList_toList] at hcompare
  have htruthy := ofText_reads_written.2 hitems
  rw [String.ofList_toList] at htruthy
  exact ⟨hitems, hquoted, hcompare, htruthy⟩

end Condition

end Dialogue
