import Dialogue.Json.Printer
import Dialogue.Json.Scan
import Dialogue.Proofs.Except

/-!
# The text of a string

A string is read up to its closing quote, whatever stands behind it, and takes more characters of
text than it has itself. Every string reads back from the text that is written for it.
-/
namespace Dialogue.Json

theorem hexEscape_eq_ok_iff {cs rest : List Char} {n : Nat} :
    hexEscape cs = .ok (n, rest) ↔
      ∃ a b c d, cs = a :: b :: c :: d :: rest ∧ hexValues? a b c d = some n := by
  unfold hexEscape
  constructor
  · intro h
    dsimp only at h
    split at h
    · split at h
      · rename_i hv
        cases h
        exact ⟨_, _, _, _, rfl, hv⟩
      · cases h
    · cases h
  · rintro ⟨a, b, c, d, rfl, hv⟩
    simp only [hv]

theorem hexEscape_append {cs rest : List Char} {n : Nat} (h : hexEscape cs = .ok (n, rest))
    (more : List Char) : hexEscape (cs ++ more) = .ok (n, rest ++ more) := by
  obtain ⟨a, b, c, d, rfl, hv⟩ := hexEscape_eq_ok_iff.1 h
  exact hexEscape_eq_ok_iff.2 ⟨a, b, c, d, rfl, hv⟩

theorem hexEscape_length {cs rest : List Char} {n : Nat} (h : hexEscape cs = .ok (n, rest)) :
    rest.length < cs.length := by
  obtain ⟨a, b, c, d, rfl, _⟩ := hexEscape_eq_ok_iff.1 h
  simp only [List.length_cons]
  omega

theorem trailingEscape_eq_ok_iff {high : Nat} {cs rest : List Char} {c : Char} :
    trailingEscape high cs = .ok (c, rest) ↔
      ∃ tail low, cs = '\\' :: 'u' :: tail ∧ hexEscape tail = .ok (low, rest) ∧
        isTrailingSurrogate low = true ∧ c = surrogatePair high low := by
  constructor
  · intro h
    unfold trailingEscape at h
    split at h <;> try cases h
    rename_i tail
    split at h
    · cases h
    · rename_i low after hx
      split at h
      · rename_i hl
        simp only [Except.ok.injEq, Prod.mk.injEq] at h
        obtain ⟨hc, rfl⟩ := h
        exact ⟨tail, low, rfl, hx, hl, hc.symm⟩
      · cases h
  · rintro ⟨tail, low, rfl, hx, hl, hc⟩
    simp only [trailingEscape, hx, hl, hc, if_true]

theorem escapeAt_append {cs rest : List Char} {d : Char} (h : escapeAt cs = .ok (d, rest))
    (more : List Char) : escapeAt (cs ++ more) = .ok (d, rest ++ more) := by
  cases cs with
  | nil => cases h
  | cons c cs =>
      simp only [escapeAt, List.cons_append] at h ⊢
      split at h
      · rename_i hu
        rw [if_pos hu]
        split at h
        · cases h
        · rename_i n after hx
          rw [hexEscape_append hx more]
          dsimp only
          split at h
          · cases h
          · rename_i ht
            rw [if_neg ht]
            split at h
            · rename_i hl
              rw [if_pos hl]
              obtain ⟨tail, low, rfl, hx', hl', hc⟩ := trailingEscape_eq_ok_iff.1 h
              exact trailingEscape_eq_ok_iff.2
                ⟨tail ++ more, low, rfl, hexEscape_append hx' more, hl', hc⟩
            · rename_i hl
              rw [if_neg hl]
              cases h
              rfl
      · rename_i hu
        rw [if_neg hu]
        split at h
        · cases h
          rfl
        · cases h

theorem escapeAt_length {cs rest : List Char} {d : Char} (h : escapeAt cs = .ok (d, rest)) :
    rest.length < cs.length := by
  cases cs with
  | nil => cases h
  | cons c cs =>
      simp only [escapeAt] at h
      rw [List.length_cons]
      split at h
      · split at h
        · cases h
        · rename_i n after hx
          have hn := hexEscape_length hx
          split at h
          · cases h
          · split at h
            · obtain ⟨tail, low, rfl, hx', _, _⟩ := trailingEscape_eq_ok_iff.1 h
              have hn' := hexEscape_length hx'
              simp only [List.length_cons] at hn
              omega
            · cases h
              omega
      · split at h
        · cases h
          omega
        · cases h

theorem stringBody_append {fuel fuel' : Nat} (hf : fuel ≤ fuel') {cs s rest : List Char}
    (h : stringBody fuel cs = .ok (s, rest)) (more : List Char) :
    stringBody fuel' (cs ++ more) = .ok (s, rest ++ more) := by
  induction fuel generalizing fuel' cs s with
  | zero => cases h
  | succ fuel ih =>
      cases fuel' with
      | zero => exact absurd hf (Nat.not_succ_le_zero fuel)
      | succ fuel' =>
          have hf' := Nat.le_of_succ_le_succ hf
          cases cs with
          | nil => cases h
          | cons c cs =>
              simp only [stringBody, List.cons_append] at h ⊢
              split at h
              · rename_i hq
                rw [if_pos hq]
                cases h
                rfl
              · rename_i hq
                rw [if_neg hq]
                split at h
                · rename_i hb
                  rw [if_pos hb]
                  split at h
                  · cases h
                  · rename_i d after he
                    obtain ⟨⟨s', rest'⟩, hs, hr⟩ := map_eq_ok_iff.1 h
                    cases hr
                    rw [escapeAt_append he more]
                    simp only [ih hf' hs, Except.map]
                · rename_i hb
                  rw [if_neg hb]
                  split at h
                  · cases h
                  · rename_i hc
                    obtain ⟨⟨s', rest'⟩, hs, hr⟩ := map_eq_ok_iff.1 h
                    cases hr
                    rw [if_neg hc]
                    simp only [ih hf' hs, Except.map]

theorem stringBody_length {fuel : Nat} {cs s rest : List Char}
    (h : stringBody fuel cs = .ok (s, rest)) : s.length + rest.length < cs.length := by
  induction fuel generalizing cs s with
  | zero => cases h
  | succ fuel ih =>
      cases cs with
      | nil => cases h
      | cons c cs =>
          simp only [stringBody] at h
          rw [List.length_cons]
          split at h
          · cases h
            simp
          · split at h
            · split at h
              · cases h
              · rename_i d after he
                obtain ⟨⟨s', rest'⟩, hs, hr⟩ := map_eq_ok_iff.1 h
                cases hr
                have hd := escapeAt_length he
                have hi := ih hs
                dsimp only [List.length_cons] at hi ⊢
                omega
            · split at h
              · cases h
              · obtain ⟨⟨s', rest'⟩, hs, hr⟩ := map_eq_ok_iff.1 h
                cases hr
                have hi := ih hs
                dsimp only [List.length_cons] at hi ⊢
                omega

theorem stringAt_append {cs rest : List Char} {s : String} (h : stringAt cs = .ok (s, rest))
    (more : List Char) : stringAt (cs ++ more) = .ok (s, rest ++ more) := by
  obtain ⟨⟨body, rest'⟩, hb, hr⟩ := map_eq_ok_iff.1 h
  cases hr
  have hle : cs.length + 1 ≤ (cs ++ more).length + 1 := by
    rw [List.length_append]
    omega
  rw [stringAt, stringBody_append hle hb more]
  rfl

theorem stringAt_length {cs rest : List Char} {s : String} (h : stringAt cs = .ok (s, rest)) :
    s.toList.length + rest.length < cs.length := by
  obtain ⟨⟨body, rest'⟩, hb, hr⟩ := map_eq_ok_iff.1 h
  cases hr
  simpa using stringBody_length hb

theorem hexValues?_control : ∀ n : Fin 32,
    hexValues? '0' '0' (Nat.digitChar (n / 16)) (Nat.digitChar (n % 16)) = some n.val := by
  decide

theorem stringBody_escape {es cs : List Char} {d : Char} (h : escapeAt es = .ok (d, cs))
    (fuel : Nat) :
    stringBody (fuel + 1) ('\\' :: es) = (stringBody fuel cs).map fun r => (d :: r.1, r.2) := by
  simp only [stringBody, h]
  rfl

theorem escapeAt_control {c : Char} (h : c.toNat < 32) (cs : List Char) :
    escapeAt ('u' :: '0' :: '0' :: Nat.digitChar (c.toNat / 16) :: Nat.digitChar (c.toNat % 16) ::
      cs) = .ok (c, cs) := by
  have hx : hexEscape ('0' :: '0' :: Nat.digitChar (c.toNat / 16) ::
      Nat.digitChar (c.toNat % 16) :: cs) = .ok (c.toNat, cs) :=
    hexEscape_eq_ok_iff.2 ⟨_, _, _, _, rfl, hexValues?_control ⟨c.toNat, h⟩⟩
  have ht : isTrailingSurrogate c.toNat = false := by
    simp only [isTrailingSurrogate, Bool.and_eq_false_iff, decide_eq_false_iff_not]
    omega
  have hl : isLeadingSurrogate c.toNat = false := by
    simp only [isLeadingSurrogate, Bool.and_eq_false_iff, decide_eq_false_iff_not]
    omega
  simp only [escapeAt, hx, ht, hl, Char.ofNat_toNat]
  rfl

theorem stringBody_escapedChar (fuel : Nat) (c : Char) (cs : List Char) :
    stringBody (fuel + 1) (escapedChar c ++ cs) =
      (stringBody fuel cs).map fun r => (c :: r.1, r.2) := by
  -- a letter that stands for the character with this code
  have hletter {n : Nat} {e : Char} (hn : c.toNat = n)
      (he : escapeAt (e :: cs) = .ok (Char.ofNat n, cs)) :
      stringBody (fuel + 1) (['\\', e] ++ cs) =
        (stringBody fuel cs).map fun r => (c :: r.1, r.2) := by
    rw [← hn, Char.ofNat_toNat] at he
    exact stringBody_escape he fuel
  unfold escapedChar
  split
  · rename_i hc
    subst hc
    exact stringBody_escape rfl fuel
  · rename_i hq
    split
    · rename_i hc
      subst hc
      exact stringBody_escape rfl fuel
    · rename_i hb
      split
      · exact hletter ‹_› rfl
      · split
        · exact hletter ‹_› rfl
        · split
          · exact hletter ‹_› rfl
          · split
            · exact hletter ‹_› rfl
            · split
              · exact hletter ‹_› rfl
              · split
                · rename_i hlt
                  exact stringBody_escape (escapeAt_control hlt cs) fuel
                · rename_i hge
                  rw [List.singleton_append, stringBody, if_neg hq, if_neg hb, if_neg hge]

theorem stringBody_escaped {fuel : Nat} {s : List Char} (hf : s.length < fuel)
    (rest : List Char) :
    stringBody fuel (s.flatMap escapedChar ++ '"' :: rest) = .ok (s, rest) := by
  induction s generalizing fuel with
  | nil =>
      obtain ⟨fuel, rfl⟩ := Nat.exists_eq_succ_of_ne_zero (Nat.ne_of_gt hf)
      rfl
  | cons c s ih =>
      cases fuel with
      | zero => exact absurd hf (Nat.not_lt_zero _)
      | succ fuel =>
          rw [List.flatMap_cons, List.append_assoc, stringBody_escapedChar,
            ih (Nat.lt_of_succ_lt_succ hf)]
          rfl

theorem length_le_flatMap_escapedChar (s : List Char) :
    s.length ≤ (s.flatMap escapedChar).length := by
  induction s with
  | nil => exact Nat.le_refl 0
  | cons c s ih =>
      have hpos : 0 < (escapedChar c).length := by
        unfold escapedChar
        repeat' split
        all_goals exact Nat.succ_pos _
      rw [List.flatMap_cons, List.length_append, List.length_cons]
      omega

/-- A string reads back from its text, after the opening quote. -/
theorem stringAt_escaped (s : String) (rest : List Char) :
    stringAt (s.toList.flatMap escapedChar ++ '"' :: rest) = .ok (s, rest) := by
  have hf : s.toList.length < (s.toList.flatMap escapedChar ++ '"' :: rest).length + 1 := by
    have := length_le_flatMap_escapedChar s.toList
    rw [List.length_append]
    omega
  rw [stringAt, stringBody_escaped hf]
  simp only [Except.map, String.ofList_toList]

end Dialogue.Json
