import Dialogue.Wire.Token

/-!
# Tokens delimit themselves

A part of running text ends at the leftmost of the tokens that may end it. Every token begins with
`<` and holds no other `<`, so a token that is written behind a text cannot begin inside it,
whatever the text is. A text is therefore cut where a token was put exactly when none of the tokens
searched for occurs in front of it, and there is no second way to cut it.

Every token ends with `>` and holds no other `>` either. Where two texts meet no token comes about
if the first ends as tokens do or the second begins as they do.

`Lacks` is all that the grammar of running text asks of a part. Nothing here is about positions.
-/
namespace Dialogue.Wire

/-- None of the tokens occurs in the text. -/
def Lacks (tokens : List Token) (cs : List Char) : Prop := ∀ t ∈ tokens, ¬ t.chars <:+: cs

namespace Token

theorem chars_eq_cons (t : Token) : ∃ cs, t.chars = '<' :: cs ∧ '<' ∉ cs := by
  cases t <;> exact ⟨_, rfl, by decide⟩

theorem eq_of_chars_prefix_chars {s t : Token} (h : s.chars <+: t.chars) : s = t := by
  cases s <;> cases t <;> first | rfl | exact absurd h (by decide)

theorem chars_append_inj {s t : Token} {xs ys : List Char} (h : s.chars ++ xs = t.chars ++ ys) :
    s = t ∧ xs = ys := by
  have hst : s = t := by
    rcases List.append_eq_append_iff.mp h with ⟨as, ht, _⟩ | ⟨as, hs, _⟩
    · exact eq_of_chars_prefix_chars ⟨as, ht.symm⟩
    · exact (eq_of_chars_prefix_chars ⟨as, hs.symm⟩).symm
  subst hst
  exact ⟨rfl, List.append_cancel_left h⟩

theorem not_mem_of_chars_eq_append {t : Token} {xs ys : List Char} (h : t.chars = xs ++ ys)
    (hx : xs ≠ []) : '<' ∉ ys := by
  obtain ⟨cs, ht, hc⟩ := t.chars_eq_cons
  rw [ht] at h
  cases xs with
  | nil => exact absurd rfl hx
  | cons x xs =>
      injection h with _ h
      subst h
      intro hy
      exact hc (List.mem_append_right xs hy)

/-- A token that begins inside a text ends inside it when another token follows the text. -/
theorem prefix_of_prefix_append {s t : Token} {xs ys : List Char} (hx : xs ≠ [])
    (h : s.chars <+: xs ++ (t.chars ++ ys)) : s.chars <+: xs := by
  obtain ⟨zs, h⟩ := h
  rcases List.append_eq_append_iff.mp h with ⟨as, hs, _⟩ | ⟨bs, hs, hb⟩
  · exact ⟨as, hs.symm⟩
  · have hm := not_mem_of_chars_eq_append hs hx
    obtain ⟨cs, ht, _⟩ := t.chars_eq_cons
    cases bs with
    | nil => exact ⟨[], by rw [hs, List.append_nil, List.append_nil]⟩
    | cons b bs =>
        rw [ht] at hb
        injection hb with hb _
        exact absurd (hb ▸ List.mem_cons_self) hm

end Token

theorem lacks_nil (tokens : List Token) : Lacks tokens [] := by
  intro t _ h
  have hl := h.length_le
  have := t.chars_length_pos
  simp only [List.length_nil] at hl
  omega

theorem Lacks.mono {tokens : List Token} {xs ys : List Char} (h : Lacks tokens ys)
    (hx : xs <:+: ys) : Lacks tokens xs := by
  intro t ht hi
  exact h t ht (hi.trans hx)

theorem Lacks.of_subset {tokens tokens' : List Token} {cs : List Char} (h : Lacks tokens cs)
    (hs : tokens' ⊆ tokens) : Lacks tokens' cs :=
  fun t ht => h t (hs ht)

theorem lacks_of_not_mem (tokens : List Token) {cs : List Char} (h : '<' ∉ cs) :
    Lacks tokens cs := by
  intro t _ hi
  obtain ⟨ts, ht, _⟩ := t.chars_eq_cons
  rw [ht] at hi
  exact h (hi.subset List.mem_cons_self)

theorem tokenAt?_eq_some_iff {tokens : List Token} {cs rest : List Char} {t : Token} :
    tokenAt? tokens cs = some (t, rest) ↔ t ∈ tokens ∧ cs = t.chars ++ rest := by
  constructor
  · exact tokenAt?_eq
  · rintro ⟨ht, rfl⟩
    induction tokens with
    | nil => cases ht
    | cons s tokens ih =>
        simp only [tokenAt?]
        split
        · rename_i r hr
          obtain ⟨rfl, rfl⟩ := Token.chars_append_inj (Text.dropLeading?_eq_some.1 hr)
          rfl
        · rename_i hs
          rcases List.mem_cons.mp ht with rfl | ht
          · rw [Text.dropLeading?_eq_some.2 rfl] at hs
            cases hs
          · exact ih ht

theorem tokenAt?_eq_none_iff {tokens : List Token} {cs : List Char} :
    tokenAt? tokens cs = none ↔ ∀ t ∈ tokens, ¬ t.chars <+: cs := by
  rw [Option.eq_none_iff_forall_ne_some]
  constructor
  · rintro h t ht ⟨rest, rfl⟩
    exact h (t, rest) (tokenAt?_eq_some_iff.2 ⟨ht, rfl⟩)
  · rintro h ⟨t, rest⟩ ht
    obtain ⟨hm, rfl⟩ := tokenAt?_eq_some_iff.1 ht
    exact h t hm ⟨rest, rfl⟩

theorem lacks_cons_iff {tokens : List Token} {c : Char} {cs : List Char} :
    Lacks tokens (c :: cs) ↔ tokenAt? tokens (c :: cs) = none ∧ Lacks tokens cs := by
  simp only [Lacks, tokenAt?_eq_none_iff, List.infix_cons_iff, not_or, ← forall_and]

theorem splitAtFirst?_eq_none_iff {tokens : List Token} {cs : List Char} :
    splitAtFirst? tokens cs = none ↔ Lacks tokens cs := by
  induction cs with
  | nil => simp only [splitAtFirst?, lacks_nil]
  | cons c cs ih =>
      simp only [splitAtFirst?, lacks_cons_iff]
      split
      · rename_i ht
        simp [ht]
      · rename_i ht
        simp [ht, ih]

instance (tokens : List Token) (cs : List Char) : Decidable (Lacks tokens cs) :=
  decidable_of_iff _ splitAtFirst?_eq_none_iff

theorem lacks_of_splitAtFirst? {tokens : List Token} {cs : List Char} {cut : Cut}
    (h : splitAtFirst? tokens cs = some cut) : Lacks tokens cut.before := by
  induction cs generalizing cut with
  | nil => cases h
  | cons c cs ih =>
      simp only [splitAtFirst?] at h
      split at h
      · cases h
        exact lacks_nil tokens
      · rename_i hn
        obtain ⟨inner, hi, rfl⟩ := Option.map_eq_some_iff.1 h
        rw [lacks_cons_iff, tokenAt?_eq_none_iff]
        refine ⟨?_, ih hi⟩
        intro t ht hp
        have hc := (splitAtFirst?_eq hi).2
        rw [hc] at hn
        apply tokenAt?_eq_none_iff.1 hn t ht
        exact hp.trans (List.prefix_append (c :: inner.before) _)

theorem splitAtFirst?_append {tokens : List Token} {xs : List Char} (h : Lacks tokens xs)
    {t : Token} (ht : t ∈ tokens) (ys : List Char) :
    splitAtFirst? tokens (xs ++ (t.chars ++ ys)) = some ⟨xs, t, ys⟩ := by
  induction xs with
  | nil =>
      obtain ⟨cs, hc, _⟩ := t.chars_eq_cons
      have hat : tokenAt? tokens (t.chars ++ ys) = some (t, ys) :=
        tokenAt?_eq_some_iff.2 ⟨ht, rfl⟩
      rw [hc, List.cons_append] at hat
      rw [List.nil_append, hc, List.cons_append, splitAtFirst?, hat]
  | cons x xs ih =>
      have hn : tokenAt? tokens (x :: (xs ++ (t.chars ++ ys))) = none := by
        rw [tokenAt?_eq_none_iff]
        intro s hs hp
        have hx := Token.prefix_of_prefix_append (List.cons_ne_nil x xs) hp
        exact h s hs hx.isInfix
      rw [List.cons_append, splitAtFirst?, hn]
      simp only [ih (lacks_cons_iff.1 h).2, Option.map_some]

theorem splitAtFirst?_eq_some_iff {tokens : List Token} {cs : List Char} {cut : Cut} :
    splitAtFirst? tokens cs = some cut ↔ cut.token ∈ tokens ∧
      cs = cut.before ++ (cut.token.chars ++ cut.after) ∧ Lacks tokens cut.before := by
  constructor
  · intro h
    have hc := splitAtFirst?_eq h
    exact ⟨hc.1, hc.2, lacks_of_splitAtFirst? h⟩
  · rintro ⟨ht, rfl, hl⟩
    exact splitAtFirst?_append hl ht cut.after

/-- There is one way to cut a text at a token in front of which there is none. -/
theorem cut_unique {tokens : List Token} {xs xs' ys ys' : List Char} {t t' : Token}
    (hx : Lacks tokens xs) (hx' : Lacks tokens xs') (ht : t ∈ tokens) (ht' : t' ∈ tokens)
    (h : xs ++ (t.chars ++ ys) = xs' ++ (t'.chars ++ ys')) : xs = xs' ∧ t = t' ∧ ys = ys' := by
  have hs := splitAtFirst?_append hx ht ys
  rw [h, splitAtFirst?_append hx' ht' ys'] at hs
  injection hs with hs
  injection hs with h₁ h₂ h₃
  exact ⟨h₁.symm, h₂.symm, h₃.symm⟩

/-- Of two texts with tokens behind them, the one that holds none of the tokens is the whole other
or ends where a token begins in it. -/
theorem eq_or_cut_of_append_eq {tokens : List Token} {xs xs' ys ys' : List Char} {t t' : Token}
    (hx : Lacks tokens xs) (ht' : t' ∈ tokens)
    (h : xs ++ (t.chars ++ ys) = xs' ++ (t'.chars ++ ys')) :
    xs' = xs ∨ ∃ more, xs' = xs ++ '<' :: more := by
  rcases List.append_eq_append_iff.mp h with ⟨as, hxs, ha⟩ | ⟨as, hxs, ha⟩
  · cases as with
    | nil => exact .inl (by rw [hxs, List.append_nil])
    | cons a as =>
        obtain ⟨cs, ht, _⟩ := t.chars_eq_cons
        rw [ht] at ha
        injection ha with ha _
        exact .inr ⟨as, by rw [hxs, ha]⟩
  · cases as with
    | nil => exact .inl (by rw [hxs, List.append_nil])
    | cons a as =>
        -- the other token would end inside the text that lacks it
        have hp := Token.prefix_of_prefix_append (List.cons_ne_nil a as) ⟨ys', ha⟩
        exact absurd (hxs ▸ hp.isInfix.trans (List.suffix_append _ _).isInfix) (hx t' ht')

theorem Lacks.append_of_not_mem {tokens : List Token} {xs ys : List Char} (hx : '<' ∉ xs)
    (hy : Lacks tokens ys) : Lacks tokens (xs ++ ys) := by
  induction xs with
  | nil => exact hy
  | cons x xs ih =>
      have hne : '<' ≠ x := List.ne_of_not_mem_cons hx
      intro t ht hi
      rcases List.infix_cons_iff.1 hi with hp | hi
      · obtain ⟨cs, hc, _⟩ := t.chars_eq_cons
        rw [hc] at hp
        exact hne (List.cons_prefix_cons.1 hp).1
      · exact ih (List.not_mem_of_not_mem_cons hx) t ht hi

theorem Token.not_mem_of_append_eq_chars {t : Token} {xs ys : List Char} (h : t.chars = xs ++ ys)
    (hy : ys ≠ []) : '>' ∉ xs := by
  have hinit : t.chars.dropLast = xs ++ ys.dropLast := by
    rw [h, List.dropLast_append_of_ne_nil hy]
  have ht : '>' ∉ t.chars.dropLast := by cases t <;> decide
  rw [hinit] at ht
  exact fun hm => ht (List.mem_append_left _ hm)

/-- The first text is empty or ends as tokens do, or the second is empty or begins as they do. -/
def Meet (xs ys : List Char) : Prop := (∀ c ∈ xs.getLast?, c = '>') ∨ ∀ c ∈ ys.head?, c = '<'

theorem Meet.of_append_left {ws xs ys : List Char} (h : Meet (ws ++ xs) ys) : Meet xs ys := by
  refine h.imp_left fun hlast c hc => hlast c ?_
  rw [Option.mem_def] at hc
  rw [List.getLast?_append, hc]
  rfl

theorem Meet.of_append_right {xs ys zs : List Char} (h : Meet xs (ys ++ zs)) : Meet xs ys := by
  refine h.imp_right fun hhead c hc => hhead c ?_
  rw [Option.mem_def] at hc
  rw [List.head?_append, hc]
  rfl

theorem meet_of_ends {t : Token} {xs : List Char} (h : t.chars <:+ xs) (ys : List Char) :
    Meet xs ys := by
  obtain ⟨ws, rfl⟩ := h
  refine .inl fun c hc => ?_
  rw [List.getLast?_append] at hc
  cases t <;> exact (Option.some.inj hc).symm

theorem meet_of_begins {t : Token} {ys : List Char} (h : t.chars <+: ys) (xs : List Char) :
    Meet xs ys := by
  obtain ⟨zs, rfl⟩ := h
  refine .inr fun c hc => ?_
  cases t <;> exact (Option.some.inj hc).symm

/-- Where texts meet so, a token that occurs in both together lies in the first or in the second. -/
theorem Token.occurs_aside {t : Token} {xs ys before after : List Char} (h : Meet xs ys)
    (hc : xs ++ ys = before ++ (t.chars ++ after)) :
    (∃ more, xs = before ++ (t.chars ++ more) ∧ after = more ++ ys) ∨
      ∃ more, before = xs ++ more ∧ ys = more ++ (t.chars ++ after) := by
  rcases List.append_eq_append_iff.mp hc with ⟨more, hb, hy⟩ | ⟨front, rfl, hy⟩
  · exact .inr ⟨more, hb, hy⟩
  · -- the token begins in the first text, with `front` as its part there
    rcases List.append_eq_append_iff.mp hy with ⟨more, rfl, ha⟩ | ⟨back, ht, rfl⟩
    · exact .inl ⟨more, rfl, ha⟩
    · by_cases hfront : front = []
      · subst hfront
        rw [List.nil_append] at ht
        exact .inr ⟨[], by simp only [List.append_nil], by rw [ht, List.nil_append]⟩
      · by_cases hback : back = []
        · subst hback
          rw [List.append_nil] at ht
          exact .inl ⟨[], by rw [ht, List.append_nil], rfl⟩
        · rcases h.of_append_left.of_append_right with hlast | hhead
          · have hmem := List.getLast_mem hfront
            rw [hlast _ (List.getLast?_eq_some_getLast hfront)] at hmem
            exact absurd hmem (Token.not_mem_of_append_eq_chars ht hback)
          · have hmem := List.head_mem hback
            rw [hhead _ (List.head?_eq_some_head hback)] at hmem
            exact absurd hmem (Token.not_mem_of_chars_eq_append ht hfront)

/-- No token comes about where texts meet so. -/
theorem Lacks.append {tokens : List Token} {xs ys : List Char} (hx : Lacks tokens xs)
    (hy : Lacks tokens ys) (h : Meet xs ys) : Lacks tokens (xs ++ ys) := by
  rintro t ht ⟨before, after, hc⟩
  rw [List.append_assoc] at hc
  rcases Token.occurs_aside h hc.symm with ⟨more, rfl, _⟩ | ⟨more, _, rfl⟩
  · exact hx t ht ⟨before, more, List.append_assoc _ _ _⟩
  · exact hy t ht ⟨more, after, List.append_assoc _ _ _⟩

theorem Token.lacks_chars {tokens : List Token} {t : Token} (h : t ∉ tokens) :
    Lacks tokens t.chars := by
  rintro s hs ⟨xs, ys, hc⟩
  rw [List.append_assoc] at hc
  cases xs with
  | nil =>
      have hst : s = t := Token.eq_of_chars_prefix_chars ⟨ys, hc⟩
      exact h (hst ▸ hs)
  | cons x xs =>
      obtain ⟨cs, hs', _⟩ := s.chars_eq_cons
      have hlt := Token.not_mem_of_chars_eq_append hc.symm (List.cons_ne_nil x xs)
      rw [hs'] at hlt
      exact hlt List.mem_cons_self

/-- Texts without some tokens are still without them when another token stands between the two. -/
theorem Lacks.append_token {tokens : List Token} {xs ys : List Char} {t : Token}
    (hx : Lacks tokens xs) (ht : t ∉ tokens) (hy : Lacks tokens ys) :
    Lacks tokens (xs ++ (t.chars ++ ys)) := by
  have htail : Lacks tokens (t.chars ++ ys) :=
    (Token.lacks_chars ht).append hy (meet_of_ends (List.suffix_refl _) ys)
  exact hx.append htail (meet_of_begins (List.prefix_append _ _) xs)

end Dialogue.Wire
