import Dialogue.Proofs.Text.Slice
import Dialogue.Proofs.Wire.Delimiter
import Dialogue.Wire.Parser
import Mathlib.Data.List.MinMax

/-!
# The places of tokens

The place of a token in a text is the number of bytes in front of it. Running text is cut in one
pass over it. `earliest?` finds the same place in another way, by a search for each token alone, of
which the one that comes first counts; no two tokens begin at one place.

A token behind a text is found there exactly when none of the tokens occurs in the text. Whatever
the text ends with, no token is made of its end and of a token behind it.
-/
namespace Dialogue.Wire

/-- The token occurs behind so many bytes of the text. -/
def Token.OccursAt (t : Token) (place : Nat) (cs : List Char) : Prop :=
  ∃ before after, cs = before ++ (t.chars ++ after) ∧ Text.byteLength before = place

def Token.place? (t : Token) (cs : List Char) : Option Nat :=
  (splitAtFirst? [t] cs).map fun cut => Text.byteLength cut.before

/-- The least place that a search for one of the tokens alone finds, and its token. -/
def earliest? (tokens : List Token) (cs : List Char) : Option (Nat × Token) :=
  (tokens.filterMap fun t => (t.place? cs).map fun place => (place, t)).argmin Prod.fst

variable {tokens : List Token} {t : Token} {cs xs ys : List Char} {cut : Cut} {place : Nat}

/-- In front of the place where a text is cut none of the tokens occurs, and at it only the one that
is cut out. -/
theorem le_of_occursAt (h : splitAtFirst? tokens cs = some cut) (ht : t ∈ tokens)
    (ho : t.OccursAt place cs) :
    Text.byteLength cut.before ≤ place ∧ (place = Text.byteLength cut.before → t = cut.token) := by
  obtain ⟨before, after, hcs, rfl⟩ := ho
  obtain ⟨_, hcut, hlacks⟩ := splitAtFirst?_eq_some_iff.1 h
  have heq := hcut.symm.trans hcs
  rcases eq_or_cut_of_append_eq hlacks ht heq with rfl | ⟨more, rfl⟩
  · exact ⟨le_rfl, fun _ => (Token.chars_append_inj (List.append_cancel_left heq)).1.symm⟩
  · have hmark : 0 < Text.byteLength ('<' :: more) :=
      (List.length_pos_of_mem List.mem_cons_self).trans_le (Text.length_le_byteLength _)
    rw [Text.byteLength_append]
    omega

theorem occursAt_cut (h : splitAtFirst? tokens cs = some cut) :
    cut.token.OccursAt (Text.byteLength cut.before) cs :=
  ⟨cut.before, cut.after, (splitAtFirst?_eq_some_iff.1 h).2.1, rfl⟩

theorem Token.place?_eq_some_iff :
    t.place? cs = some place ↔
      t.OccursAt place cs ∧ ∀ other, t.OccursAt other cs → place ≤ other := by
  rw [place?, Option.map_eq_some_iff]
  constructor
  · rintro ⟨cut, hcut, rfl⟩
    have htoken : cut.token = t := List.mem_singleton.1 (splitAtFirst?_eq_some_iff.1 hcut).1
    refine ⟨htoken ▸ occursAt_cut hcut, fun other ho => ?_⟩
    exact (le_of_occursAt hcut List.mem_cons_self ho).1
  · rintro ⟨ho, hleast⟩
    cases hcut : splitAtFirst? [t] cs with
    | none =>
        obtain ⟨before, after, rfl, _⟩ := ho
        have hlacks := splitAtFirst?_eq_none_iff.1 hcut t List.mem_cons_self
        exact absurd ⟨before, after, List.append_assoc _ _ _⟩ hlacks
    | some cut =>
        have htoken : cut.token = t := List.mem_singleton.1 (splitAtFirst?_eq_some_iff.1 hcut).1
        have hle := (le_of_occursAt hcut List.mem_cons_self ho).1
        exact ⟨cut, rfl, hle.antisymm (hleast _ (htoken ▸ occursAt_cut hcut))⟩

theorem Token.place?_eq_none_iff : t.place? cs = none ↔ ¬ t.chars <:+: cs := by
  rw [place?, Option.map_eq_none_iff, splitAtFirst?_eq_none_iff, Lacks, List.forall_mem_singleton]

theorem place?_of_cut (h : splitAtFirst? tokens cs = some cut) :
    cut.token.place? cs = some (Text.byteLength cut.before) := by
  refine Token.place?_eq_some_iff.2 ⟨occursAt_cut h, fun other ho => ?_⟩
  exact (le_of_occursAt h (splitAtFirst?_eq_some_iff.1 h).1 ho).1

/-- Searching for each token alone finds where the text is cut in one pass. -/
theorem earliest?_eq (tokens : List Token) (cs : List Char) :
    earliest? tokens cs =
      (splitAtFirst? tokens cs).map fun cut => (Text.byteLength cut.before, cut.token) := by
  cases hcut : splitAtFirst? tokens cs with
  | none =>
      rw [earliest?, Option.map_none, List.argmin_eq_none, List.filterMap_eq_nil_iff]
      intro t ht
      rw [Token.place?_eq_none_iff.2 (splitAtFirst?_eq_none_iff.1 hcut t ht)]
      rfl
  | some cut =>
      have hfound : ∀ found ∈ tokens.filterMap fun t => (t.place? cs).map fun place => (place, t),
          Text.byteLength cut.before ≤ found.1 ∧
            (found.1 = Text.byteLength cut.before → found.2 = cut.token) := by
        intro found hm
        obtain ⟨t, ht, hsearch⟩ := List.mem_filterMap.1 hm
        obtain ⟨place, hplace, rfl⟩ := Option.map_eq_some_iff.1 hsearch
        exact le_of_occursAt hcut ht (Token.place?_eq_some_iff.1 hplace).1
      rw [earliest?, Option.map_some, List.argmin_eq_some_iff]
      refine ⟨List.mem_filterMap.2 ⟨cut.token, (splitAtFirst?_eq_some_iff.1 hcut).1, ?_⟩,
        fun found hm => (hfound found hm).1, ?_⟩
      · rw [place?_of_cut hcut]
        rfl
      · -- nothing else is found at the same place, so that the order of the tokens does not count
        rintro ⟨place, t⟩ hm hle
        obtain ⟨hge, htoken⟩ := hfound _ hm
        obtain rfl : place = Text.byteLength cut.before := le_antisymm hle hge
        obtain rfl : t = cut.token := htoken rfl
        exact le_rfl

/-- A token behind a text is found there exactly when none of the tokens occurs in the text. -/
theorem earliest?_append_iff (ht : t ∈ tokens) (xs ys : List Char) :
    earliest? tokens (xs ++ (t.chars ++ ys)) = some (Text.byteLength xs, t) ↔ Lacks tokens xs := by
  rw [earliest?_eq]
  constructor
  · intro h
    obtain ⟨cut, hcut, hfound⟩ := Option.map_eq_some_iff.1 h
    obtain ⟨hplace, _⟩ := Prod.mk.inj hfound
    obtain ⟨_, hcs, hlacks⟩ := splitAtFirst?_eq_some_iff.1 hcut
    rwa [(Text.append_inj_of_byteLength hcs hplace.symm).1]
  · intro h
    rw [splitAtFirst?_append h ht]
    rfl

/-- Tokens delimit themselves. One of the tokens behind a text is found there, by a search for each
of them alone, exactly when none of them occurs in the text; a cursor cuts what it has before it at
the place of this search. A token that occurs in a text together with another one behind it, which
is empty or begins with a token, lies in the first or in the second. -/
theorem tokens_delimit_themselves :
    (∀ {tokens : List Token} {t : Token}, t ∈ tokens → ∀ xs ys : List Char,
      earliest? tokens (xs ++ (t.chars ++ ys)) = some (Text.byteLength xs, t) ↔
        Lacks tokens xs) ∧
    (∀ (tokens : List Token) (here : Cursor), earliest? tokens here.rest =
      (here.cutAt? tokens).map fun cut => (Text.byteLength cut.1, cut.2.1)) ∧
    ∀ (t : Token) (xs zs : List Char), (zs = [] ∨ ∃ s : Token, s.chars <+: zs) →
      ∀ before after, xs ++ zs = before ++ (t.chars ++ after) →
        (∃ more, xs = before ++ (t.chars ++ more) ∧ after = more ++ zs) ∨
          ∃ more, before = xs ++ more ∧ zs = more ++ (t.chars ++ after) := by
  refine ⟨earliest?_append_iff, ?_, ?_⟩
  · intro tokens here
    rw [earliest?_eq, Cursor.cutAt?, Option.map_map]
    rfl
  · intro t xs zs hz before after hc
    have hmeet : Meet xs zs := by
      rcases hz with rfl | ⟨s, hs⟩
      · exact .inr nofun
      · exact meet_of_begins hs xs
    exact Token.occurs_aside hmeet hc

/-- Neither another token in a text nor the beginning of one at its end hides the token behind. -/
theorem tokens_delimit_unfinished :
    let front := "é<|call|><|sta".toList
    let back := Token.message.chars ++ "rt|>".toList
    Token.message ∈ Token.afterRole ∧ Lacks Token.afterRole front ∧
      earliest? Token.afterRole (front ++ back) = some (15, .message) ∧
      earliest? (.call :: Token.afterRole) (front ++ back) ≠ some (15, .message) ∧
      (∃ s : Token, s.chars <+: back) ∧
      front ++ back = "é".toList ++ (Token.call.chars ++ ("<|sta".toList ++ back)) ∧
      ∃ more, front = "é".toList ++ (Token.call.chars ++ more) := by
  intro front back
  obtain ⟨hfound, -, haside⟩ := tokens_delimit_themselves
  have hlacks : Lacks Token.afterRole front := by decide
  have hcall : ¬ Lacks (.call :: Token.afterRole) front := by decide
  have hplace : Text.byteLength front = 15 := by decide
  have hback : ∃ s : Token, s.chars <+: back := ⟨.message, List.prefix_append _ _⟩
  have hsplit : front ++ back = "é".toList ++ (Token.call.chars ++ ("<|sta".toList ++ back)) := by
    decide
  refine ⟨by decide, hlacks, ?_, ?_, hback, hsplit, ?_⟩
  · rw [← hplace]
    exact (hfound (by decide) front "rt|>".toList).2 hlacks
  · rw [← hplace]
    exact fun h => hcall ((hfound (by decide) front "rt|>".toList).1 h)
  · rcases haside .call front back (.inr hback) _ _ hsplit with ⟨more, hmore, _⟩ | ⟨more, hmore, _⟩
    · exact ⟨more, hmore⟩
    · have hlength := congrArg List.length hmore
      rw [List.length_append] at hlength
      have hfront : "é".toList.length < front.length := by decide
      omega

end Dialogue.Wire
