import Dialogue.Text.Blank
import Mathlib.Data.List.DropRight

/-!
# Trimmed texts and words

Trimming twice is trimming once, and what it leaves is a part of the text. The words of a text are
parts of it that hold no blank and are not empty; a word in front of a blank is the first of them.
Blanks are those of `isBlank` throughout.
-/
namespace Dialogue.Text

theorem not_isBlank_of_ascii {c : Char} (h : 32 < c.toNat) (h' : c.toNat < 0x85) :
    isBlank c = false := by
  simp only [isBlank, Bool.or_eq_false_iff, Bool.and_eq_false_iff, decide_eq_false_iff_not,
    beq_eq_false_iff_ne]
  omega

theorem trimEnd_eq_rdropWhile (cs : List Char) : trimEnd cs = cs.rdropWhile isBlank := rfl

theorem trimEnd_isPrefix (cs : List Char) : trimEnd cs <+: cs := List.rdropWhile_prefix isBlank cs

theorem trim_isInfix (cs : List Char) : trim cs <:+: cs :=
  (trimEnd_isPrefix _).isInfix.trans (List.dropWhile_suffix isBlank).isInfix

/-- Cutting the end of a text that begins with no blank leaves its beginning. -/
theorem trimStart_trimEnd {cs : List Char} (h : trimStart cs = cs) :
    trimStart (trimEnd cs) = trimEnd cs := by
  obtain ⟨rest, hr⟩ := trimEnd_isPrefix cs
  cases ht : trimEnd cs with
  | nil => rfl
  | cons c ts =>
      rw [ht] at hr
      unfold trimStart at h ⊢
      rw [List.dropWhile_eq_self_iff] at h ⊢
      intro _
      have hc := h (by rw [← hr]; simp)
      simpa only [← hr, List.cons_append, List.getElem_cons_zero] using hc

@[simp] theorem trim_trim (cs : List Char) : trim (trim cs) = trim cs := by
  have hs : trimStart (trimStart cs) = trimStart cs := List.dropWhile_idempotent isBlank cs
  unfold trim
  rw [trimStart_trimEnd hs, trimEnd_eq_rdropWhile, trimEnd_eq_rdropWhile,
    List.rdropWhile_idempotent]

theorem trim_eq_nil_iff {cs : List Char} : trim cs = [] ↔ ∀ c ∈ cs, isBlank c = true := by
  unfold trim
  rw [trimEnd_eq_rdropWhile, List.rdropWhile_eq_nil_iff]
  constructor
  · intro h
    have hs : trimStart (trimStart cs) = [] := List.dropWhile_eq_nil_iff.2 h
    rw [trimStart, trimStart, List.dropWhile_idempotent] at hs
    exact List.dropWhile_eq_nil_iff.1 hs
  · intro h c hc
    exact h c ((List.dropWhile_suffix isBlank).subset hc)

theorem trimStart_append {before : List Char} (h : ∀ c ∈ before, isBlank c = true)
    (cs : List Char) : trimStart (before ++ cs) = trimStart cs :=
  List.dropWhile_append_of_pos h

theorem trimEnd_append (cs : List Char) {after : List Char} (h : ∀ c ∈ after, isBlank c = true) :
    trimEnd (cs ++ after) = trimEnd cs := by
  have hr : ∀ c ∈ after.reverse, isBlank c = true := fun c hc => h c (List.mem_reverse.1 hc)
  rw [trimEnd, trimEnd, List.reverse_append, List.dropWhile_append_of_pos hr]

/-- A text whose ends show something is what is left when blanks around it are trimmed. -/
theorem trim_append {before text after : List Char} (hb : ∀ c ∈ before, isBlank c = true)
    (ha : ∀ c ∈ after, isBlank c = true) (hne : text ≠ [])
    (hfirst : isBlank (text.head hne) = false) (hlast : isBlank (text.getLast hne) = false) :
    trim (before ++ (text ++ after)) = text := by
  have hs : trimStart (text ++ after) = text ++ after := by
    rw [trimStart, List.dropWhile_eq_self_iff]
    intro hl
    rw [← List.head_eq_getElem (List.ne_nil_of_length_pos hl), List.head_append_of_ne_nil hne]
    simp [hfirst]
  have he : trimEnd text = text := by
    rw [trimEnd_eq_rdropWhile, List.rdropWhile_eq_self_iff]
    intro _
    simp [hlast]
  rw [trim, trimStart_append hb, hs, trimEnd_append text ha, he]

/-- Only blanks are trimmed. -/
theorem exists_eq_append_trim (cs : List Char) :
    ∃ before after, (∀ c ∈ before, isBlank c = true) ∧ (∀ c ∈ after, isBlank c = true) ∧
      cs = before ++ (trim cs ++ after) := by
  refine ⟨cs.takeWhile isBlank, (trimStart cs).rtakeWhile isBlank, ?_, ?_, ?_⟩
  · intro c hc
    exact List.mem_takeWhile_imp hc
  · intro c hc
    exact List.mem_rtakeWhile_imp hc
  · rw [trim, trimEnd_eq_rdropWhile, List.rdropWhile_append_rtakeWhile, trimStart,
      List.takeWhile_append_dropWhile]

theorem forall_not_blank_iff {cs : List Char} :
    (∀ c ∈ cs, isBlank c = false) ↔ cs.any isBlank = false := by
  rw [List.any_eq_false]
  simp only [Bool.not_eq_true]

theorem words_cons (c : Char) (cs : List Char) :
    words (c :: cs) =
      if isBlank c = true then words cs
      else
        match cs, words cs with
        | d :: _, w :: ws => if isBlank d = true then [c] :: w :: ws else (c :: w) :: ws
        | _, ws => [c] :: ws := by
  exact words.eq_def (c :: cs)

theorem words_cons_blank {c : Char} (h : isBlank c = true) (cs : List Char) :
    words (c :: cs) = words cs := by
  rw [words_cons, if_pos h]

theorem words_singleton {c : Char} (h : isBlank c = false) : words [c] = [[c]] := by
  rw [words_cons, if_neg (by simp [h])]
  rfl

theorem words_cons_cons_blank {c d : Char} (h : isBlank c = false) (hd : isBlank d = true)
    (cs : List Char) : words (c :: d :: cs) = [c] :: words cs := by
  rw [words_cons, if_neg (by simp [h]), words_cons_blank hd]
  cases words cs with
  | nil => rfl
  | cons w ws => simp only [hd, if_true]

theorem words_cons_cons {c d : Char} {w cs : List Char} {ws : List (List Char)}
    (h : isBlank c = false) (hd : isBlank d = false) (hw : words (d :: cs) = w :: ws) :
    words (c :: d :: cs) = (c :: w) :: ws := by
  rw [words_cons, if_neg (by simp [h]), hw]
  simp only [hd, Bool.false_eq_true, if_false]

/-- What the first word is of a text that begins with no blank. -/
theorem words_eq_cons {c : Char} (h : isBlank c = false) (cs : List Char) :
    words (c :: cs) = (c :: cs).takeWhile (!isBlank ·) ::
      words (cs.dropWhile (!isBlank ·)) := by
  induction cs generalizing c with
  | nil => simp [words_singleton h, h]; rfl
  | cons d cs ih =>
      cases hd : isBlank d with
      | true => simp [words_cons_cons_blank h hd, h, hd, words_cons_blank hd]
      | false =>
          rw [words_cons_cons h hd (ih hd)]
          simp [h, hd]

theorem mem_words {w cs : List Char} (h : w ∈ words cs) :
    w <:+: cs ∧ w ≠ [] ∧ ∀ c ∈ w, isBlank c = false := by
  induction hn : cs.length using Nat.strong_induction_on generalizing cs with
  | _ n ih =>
      cases cs with
      | nil => cases h
      | cons c cs =>
          subst hn
          cases hc : isBlank c with
          | true =>
              rw [words_cons_blank hc] at h
              have hw := ih cs.length (by simp) h rfl
              exact ⟨List.infix_cons hw.1, hw.2⟩
          | false =>
              rw [words_eq_cons hc] at h
              rcases List.mem_cons.mp h with rfl | h
              · refine ⟨(List.takeWhile_prefix _).isInfix, by simp [hc], ?_⟩
                intro d hd
                simpa using List.mem_takeWhile_imp hd
              · have hs := List.dropWhile_suffix (l := cs) (!isBlank ·)
                have hw := ih _ (Nat.lt_succ_of_le hs.length_le) h rfl
                exact ⟨List.infix_cons (hw.1.trans hs.isInfix), hw.2⟩

/-- A text that is not empty and holds no blank is a word of its own, in front of a blank too. -/
theorem words_append_blank {w : List Char} (hw : w ≠ []) (h : ∀ c ∈ w, isBlank c = false)
    {b : Char} (hb : isBlank b = true) (cs : List Char) :
    words (w ++ b :: cs) = w :: words cs := by
  cases w with
  | nil => exact absurd rfl hw
  | cons c w =>
      have hc : isBlank c = false := h c List.mem_cons_self
      have hall : ∀ d ∈ w, (!isBlank d) = true := by
        intro d hd
        simp [h d (List.mem_cons_of_mem c hd)]
      rw [List.cons_append, words_eq_cons hc, List.takeWhile_cons_of_pos (by simp [hc]),
        List.takeWhile_append_of_pos hall, List.dropWhile_append_of_pos hall]
      simp [hb, words_cons_blank hb]

theorem words_of_forall {w : List Char} (hw : w ≠ []) (h : ∀ c ∈ w, isBlank c = false) :
    words w = [w] := by
  cases w with
  | nil => exact absurd rfl hw
  | cons c w =>
      have hc : isBlank c = false := h c List.mem_cons_self
      have hall : ∀ d ∈ c :: w, (!isBlank d) = true := by
        intro d hd
        simp [h d hd]
      rw [words_eq_cons hc, List.takeWhile_eq_self_iff.2 hall,
        List.dropWhile_eq_nil_iff.2 fun d hd => hall d (List.mem_cons_of_mem c hd)]
      rfl

end Dialogue.Text
