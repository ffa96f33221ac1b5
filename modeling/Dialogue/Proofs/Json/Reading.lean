import Dialogue.Json.Reader
import Dialogue.Proofs.Json.Numeral
import Dialogue.Proofs.Json.Order
import Dialogue.Proofs.Json.StringText

/-!
# Reading values

What a reader does before it reads a part is said once, as relations of one step: `ValueStep`,
`ItemsStep` and `FieldsStep`. The rest follows by induction on the fuel. A value is read alike
whatever stands behind it, as long as that does not go on with a number, and with more fuel; and it
is not nested deeper than it may be.

A whole text gives a value in order. The text of a string is longer than the string.
-/
namespace Dialogue.Json

/-- How a value begins, given the text without blanks in front, with `depth` levels to spare. -/
inductive ValueStep (fuel : Nat) : (depth : Nat) → List Char → Json → List Char → Prop
  | null {depth cs rest} (h : expectWord "ull".toList cs = .ok rest) :
      ValueStep fuel depth ('n' :: cs) .null rest
  | true {depth cs rest} (h : expectWord "rue".toList cs = .ok rest) :
      ValueStep fuel depth ('t' :: cs) (.bool true) rest
  | false {depth cs rest} (h : expectWord "alse".toList cs = .ok rest) :
      ValueStep fuel depth ('f' :: cs) (.bool false) rest
  | negative {depth cs n rest} (h : numberAt true cs = .ok (n, rest)) :
      ValueStep fuel depth ('-' :: cs) (.num n) rest
  | number {depth c cs n rest} (hc : c.isDigit = true)
      (h : numberAt false (c :: cs) = .ok (n, rest)) :
      ValueStep fuel depth (c :: cs) (.num n) rest
  | string {depth cs s rest} (h : stringAt cs = .ok (s, rest)) :
      ValueStep fuel depth ('"' :: cs) (.str s) rest
  | list {depth cs items rest} (h : readItems fuel depth true cs = .ok (items, rest)) :
      ValueStep fuel (depth + 1) ('[' :: cs) (.arr items) rest
  | object {depth cs fields rest} (h : readFields fuel depth true cs = .ok (fields, rest)) :
      ValueStep fuel (depth + 1) ('{' :: cs) (.obj fields) rest

theorem readValue_of_digit {fuel depth : Nat} {cs tail : List Char} {c : Char}
    (hs : skipBlanks cs = c :: tail) (hc : c.isDigit = true) :
    readValue (fuel + 1) depth cs =
      (numberAt false (c :: tail)).map fun r => (.num r.1, r.2) := by
  have hne : ∀ d : Char, d.isDigit = false → c ≠ d := by
    rintro d hd rfl
    rw [hc] at hd
    cases hd
  rw [readValue, hs]
  dsimp only
  rw [if_neg (hne 'n' rfl), if_neg (hne 't' rfl), if_neg (hne 'f' rfl), if_neg (hne '-' rfl),
    if_pos hc]

theorem readValue_eq_ok_iff {fuel depth : Nat} {cs rest : List Char} {j : Json} :
    readValue (fuel + 1) depth cs = .ok (j, rest) ↔
      ValueStep fuel depth (skipBlanks cs) j rest := by
  constructor
  · intro h
    rw [readValue] at h
    split at h
    · cases h
    · rename_i c tail hs
      rw [hs]
      split at h
      · subst c
        obtain ⟨r, hr, he⟩ := map_eq_ok_iff.1 h
        cases he
        exact .null hr
      · split at h
        · subst c
          obtain ⟨r, hr, he⟩ := map_eq_ok_iff.1 h
          cases he
          exact .true hr
        · split at h
          · subst c
            obtain ⟨r, hr, he⟩ := map_eq_ok_iff.1 h
            cases he
            exact .false hr
          · split at h
            · subst c
              obtain ⟨r, hr, he⟩ := map_eq_ok_iff.1 h
              cases he
              exact .negative hr
            · split at h
              · rename_i hc
                obtain ⟨r, hr, he⟩ := map_eq_ok_iff.1 h
                cases he
                exact .number hc hr
              · split at h
                · subst c
                  obtain ⟨r, hr, he⟩ := map_eq_ok_iff.1 h
                  cases he
                  exact .string hr
                · split at h
                  · subst c
                    split at h
                    · cases h
                    · obtain ⟨r, hr, he⟩ := map_eq_ok_iff.1 h
                      cases he
                      exact .list hr
                  · split at h
                    · subst c
                      split at h
                      · cases h
                      · obtain ⟨r, hr, he⟩ := map_eq_ok_iff.1 h
                        cases he
                        exact .object hr
                    · cases h
  · intro h
    generalize hs : skipBlanks cs = tail at h
    cases h with
    | number hc h =>
        rw [readValue_of_digit hs hc, h]
        rfl
    | _ h =>
        rw [readValue, hs]
        dsimp only
        rw [h]
        rfl

/-- How the rest of a list is read: it is closed, or one more item comes. -/
inductive ItemsStep (fuel depth : Nat) (first : Bool) (cs : List Char) :
    List Json → List Char → Prop
  | close {rest} (h : nextItem first cs = .ok (.close rest)) :
      ItemsStep fuel depth first cs [] rest
  | item {here after j items rest} (h : nextItem first cs = .ok (.part () here))
      (value : readValue fuel depth here = .ok (j, after))
      (more : readItems fuel depth false after = .ok (items, rest)) :
      ItemsStep fuel depth first cs (j :: items) rest

/-- How the rest of an object is read: it is closed, or one more field comes. -/
inductive FieldsStep (fuel depth : Nat) (first : Bool) (cs : List Char) :
    List (String × Json) → List Char → Prop
  | close {rest} (h : nextKey first cs = .ok (.close rest)) :
      FieldsStep fuel depth first cs [] rest
  | field {key behind here after j fields rest} (h : nextKey first cs = .ok (.part key behind))
      (colon : afterColon behind = .ok here) (value : readValue fuel depth here = .ok (j, after))
      (more : readFields fuel depth false after = .ok (fields, rest)) :
      FieldsStep fuel depth first cs ((key, j) :: fields) rest

theorem readItems_eq_ok_iff {fuel depth : Nat} {first : Bool} {cs rest : List Char}
    {items : List Json} :
    readItems (fuel + 1) depth first cs = .ok (items, rest) ↔
      ItemsStep fuel depth first cs items rest := by
  constructor
  · intro h
    rw [readItems] at h
    split at h
    · cases h
    · rename_i hn
      cases h
      exact .close hn
    · rename_i hn
      split at h
      · cases h
      · rename_i hv
        obtain ⟨r, hr, he⟩ := map_eq_ok_iff.1 h
        cases he
        exact .item hn hv hr
  · intro h
    cases h with
    | close h => rw [readItems, h]
    | item h value more =>
        rw [readItems, h]
        simp only [value, more]
        rfl

theorem readFields_eq_ok_iff {fuel depth : Nat} {first : Bool} {cs rest : List Char}
    {fields : List (String × Json)} :
    readFields (fuel + 1) depth first cs = .ok (fields, rest) ↔
      FieldsStep fuel depth first cs fields rest := by
  constructor
  · intro h
    rw [readFields] at h
    split at h
    · cases h
    · rename_i hn
      cases h
      exact .close hn
    · rename_i hn
      split at h
      · cases h
      · rename_i hc
        split at h
        · cases h
        · rename_i hv
          obtain ⟨r, hr, he⟩ := map_eq_ok_iff.1 h
          cases he
          exact .field hn hc hv hr
  · intro h
    cases h with
    | close h => rw [readFields, h]
    | field h colon value more =>
        rw [readFields, h]
        simp only [colon, value, more]
        rfl

theorem skipBlanks_append {cs tail : List Char} {c : Char} (h : skipBlanks cs = c :: tail)
    (more : List Char) : skipBlanks (cs ++ more) = c :: (tail ++ more) := by
  unfold skipBlanks at h ⊢
  rw [List.dropWhile_append, h]
  rfl

theorem expectWord_append {expected cs rest : List Char} (h : expectWord expected cs = .ok rest)
    (more : List Char) : expectWord expected (cs ++ more) = .ok (rest ++ more) := by
  induction expected generalizing cs with
  | nil =>
      cases h
      rfl
  | cons e expected ih =>
      cases cs with
      | nil => cases h
      | cons c cs =>
          simp only [expectWord, List.cons_append] at h ⊢
          split at h
          · rename_i hc
            rw [if_pos hc]
            exact ih h
          · cases h

def Next.before {α : Type} (more : List Char) : Next α → Next α
  | .part head rest => .part head (rest ++ more)
  | .close rest => .close (rest ++ more)

theorem nextItem_append {first : Bool} {cs : List Char} {next : Next Unit}
    (h : nextItem first cs = .ok next) (more : List Char) :
    nextItem first (cs ++ more) = .ok (next.before more) := by
  unfold nextItem at h ⊢
  split at h
  · cases h
  · rename_i c tail hs
    rw [skipBlanks_append hs more]
    dsimp only
    split at h
    · rename_i hc
      rw [if_pos hc]
      cases h
      rfl
    · rename_i hc
      rw [if_neg hc]
      split at h
      · rename_i hf
        rw [if_pos hf]
        cases h
        rfl
      · rename_i hf
        rw [if_neg hf]
        split at h
        · rename_i hcomma
          rw [if_pos hcomma]
          split at h
          · cases h
          · rename_i d after hs'
            rw [skipBlanks_append hs' more]
            dsimp only
            split at h
            · cases h
            · rename_i hd
              rw [if_neg hd]
              cases h
              rfl
        · cases h

theorem keyAt_append {cs : List Char} {next : Next String} (h : keyAt cs = .ok next)
    (more : List Char) : keyAt (cs ++ more) = .ok (next.before more) := by
  unfold keyAt at h
  split at h
  · obtain ⟨⟨s, rest⟩, hs, he⟩ := map_eq_ok_iff.1 h
    cases he
    rw [List.cons_append, keyAt, stringAt_append hs more]
    rfl
  · cases h

theorem nextKey_append {first : Bool} {cs : List Char} {next : Next String}
    (h : nextKey first cs = .ok next) (more : List Char) :
    nextKey first (cs ++ more) = .ok (next.before more) := by
  unfold nextKey at h ⊢
  split at h
  · cases h
  · rename_i c tail hs
    rw [skipBlanks_append hs more]
    dsimp only
    split at h
    · rename_i hc
      rw [if_pos hc]
      cases h
      rfl
    · rename_i hc
      rw [if_neg hc]
      split at h
      · rename_i hf
        rw [if_pos hf]
        exact keyAt_append h more
      · rename_i hf
        rw [if_neg hf]
        split at h
        · rename_i hcomma
          rw [if_pos hcomma]
          split at h
          · cases h
          · rename_i d after hs'
            rw [skipBlanks_append hs' more]
            dsimp only
            split at h
            · cases h
            · rename_i hd
              rw [if_neg hd]
              exact keyAt_append h more
        · cases h

theorem afterColon_append {cs rest : List Char} (h : afterColon cs = .ok rest)
    (more : List Char) : afterColon (cs ++ more) = .ok (rest ++ more) := by
  unfold afterColon at h ⊢
  split at h
  · cases h
  · rename_i c tail hs
    rw [skipBlanks_append hs more]
    dsimp only
    split at h
    · rename_i hc
      rw [if_pos hc]
      cases h
      rfl
    · cases h

theorem numberAt_append_of_ok {negative : Bool} {cs rest : List Char} {n : Number}
    (h : numberAt negative cs = .ok (n, rest)) {more : List Char} (hm : Stops more) :
    numberAt negative (cs ++ more) = .ok (n, rest ++ more) := by
  rw [← toOption_eq_some_iff, numberAt_append hm, h]
  rfl

mutual

/-- More fuel, and text behind a value that does not go on with a number, change nothing. -/
theorem readValue_append {fuel fuel' depth : Nat} (hf : fuel ≤ fuel') {cs rest : List Char}
    {j : Json} (h : readValue fuel depth cs = .ok (j, rest)) {more : List Char}
    (hm : Stops more) : readValue fuel' depth (cs ++ more) = .ok (j, rest ++ more) := by
  match fuel, fuel', hf with
  | 0, _, _ => cases h
  | fuel + 1, fuel' + 1, hf =>
      have hf := Nat.le_of_succ_le_succ hf
      have hv := readValue_eq_ok_iff.1 h
      rw [readValue_eq_ok_iff]
      generalize hs : skipBlanks cs = tail at hv
      cases hv with
      | null h =>
          rw [skipBlanks_append hs more]
          exact .null (expectWord_append h more)
      | true h =>
          rw [skipBlanks_append hs more]
          exact .true (expectWord_append h more)
      | false h =>
          rw [skipBlanks_append hs more]
          exact .false (expectWord_append h more)
      | negative h =>
          rw [skipBlanks_append hs more]
          exact .negative (numberAt_append_of_ok h hm)
      | number hc h =>
          rw [skipBlanks_append hs more]
          exact .number hc (numberAt_append_of_ok h hm)
      | string h =>
          rw [skipBlanks_append hs more]
          exact .string (stringAt_append h more)
      | list h =>
          rw [skipBlanks_append hs more]
          exact .list (readItems_append hf h hm)
      | object h =>
          rw [skipBlanks_append hs more]
          exact .object (readFields_append hf h hm)
termination_by fuel

theorem readItems_append {fuel fuel' depth : Nat} (hf : fuel ≤ fuel') {first : Bool}
    {cs rest : List Char} {items : List Json}
    (h : readItems fuel depth first cs = .ok (items, rest)) {more : List Char} (hm : Stops more) :
    readItems fuel' depth first (cs ++ more) = .ok (items, rest ++ more) := by
  match fuel, fuel', hf with
  | 0, _, _ => cases h
  | fuel + 1, fuel' + 1, hf =>
      have hf := Nat.le_of_succ_le_succ hf
      rw [readItems_eq_ok_iff]
      cases readItems_eq_ok_iff.1 h with
      | close next => exact .close (nextItem_append next more)
      | item next value tail =>
          exact .item (nextItem_append next more) (readValue_append hf value hm)
            (readItems_append hf tail hm)
termination_by fuel

theorem readFields_append {fuel fuel' depth : Nat} (hf : fuel ≤ fuel') {first : Bool}
    {cs rest : List Char} {fields : List (String × Json)}
    (h : readFields fuel depth first cs = .ok (fields, rest)) {more : List Char}
    (hm : Stops more) : readFields fuel' depth first (cs ++ more) = .ok (fields, rest ++ more) := by
  match fuel, fuel', hf with
  | 0, _, _ => cases h
  | fuel + 1, fuel' + 1, hf =>
      have hf := Nat.le_of_succ_le_succ hf
      rw [readFields_eq_ok_iff]
      cases readFields_eq_ok_iff.1 h with
      | close next => exact .close (nextKey_append next more)
      | field next colon value tail =>
          exact .field (nextKey_append next more) (afterColon_append colon more)
            (readValue_append hf value hm) (readFields_append hf tail hm)
termination_by fuel

end

mutual

theorem depth_le_of_readValue {fuel depth : Nat} {cs rest : List Char} {j : Json}
    (h : readValue fuel depth cs = .ok (j, rest)) : j.depth ≤ depth := by
  match fuel with
  | 0 => cases h
  | fuel + 1 =>
      have hv := readValue_eq_ok_iff.1 h
      generalize skipBlanks cs = tail at hv
      cases hv with
      | list h => exact Nat.succ_le_succ (depth_le_of_readItems h)
      | object h => exact Nat.succ_le_succ (depth_le_of_readFields h)
      | _ => exact Nat.zero_le _
termination_by fuel

theorem depth_le_of_readItems {fuel depth : Nat} {first : Bool} {cs rest : List Char}
    {items : List Json} (h : readItems fuel depth first cs = .ok (items, rest)) :
    depthItems items ≤ depth := by
  match fuel with
  | 0 => cases h
  | fuel + 1 =>
      cases readItems_eq_ok_iff.1 h with
      | close => exact Nat.zero_le _
      | item _ value tail =>
          exact Nat.max_le.2 ⟨depth_le_of_readValue value, depth_le_of_readItems tail⟩
termination_by fuel

theorem depth_le_of_readFields {fuel depth : Nat} {first : Bool} {cs rest : List Char}
    {fields : List (String × Json)}
    (h : readFields fuel depth first cs = .ok (fields, rest)) : depthFields fields ≤ depth := by
  match fuel with
  | 0 => cases h
  | fuel + 1 =>
      cases readFields_eq_ok_iff.1 h with
      | close => exact Nat.zero_le _
      | field _ _ value tail =>
          exact Nat.max_le.2 ⟨depth_le_of_readValue value, depth_le_of_readFields tail⟩
termination_by fuel

end

theorem ofChars_eq_ok_iff {cs : List Char} {j : Json} :
    ofChars cs = .ok j ↔
      ∃ k rest, readValue (fuelFor cs) maxDepth cs = .ok (k, rest) ∧ skipBlanks rest = [] ∧
        k.sort = j := by
  unfold ofChars
  constructor
  · intro h
    split at h
    · cases h
    · rename_i k rest hr
      obtain ⟨_, he, hk⟩ := map_eq_ok_iff.1 h
      refine ⟨k, rest, hr, ?_, hk⟩
      unfold expectEnd at he
      split at he
      · assumption
      · cases he
  · rintro ⟨k, rest, hr, hs, rfl⟩
    simp only [hr, expectEnd, hs]
    rfl

theorem sorted_of_ofChars {cs : List Char} {j : Json} (h : ofChars cs = .ok j) : j.Sorted := by
  obtain ⟨k, _, _, _, rfl⟩ := ofChars_eq_ok_iff.1 h
  exact sort_sorted k

theorem depth_le_of_ofChars {cs : List Char} {j : Json} (h : ofChars cs = .ok j) :
    j.depth ≤ maxDepth := by
  obtain ⟨k, _, hr, _, rfl⟩ := ofChars_eq_ok_iff.1 h
  exact Nat.le_trans (depth_sort_le k) (depth_le_of_readValue hr)

theorem ofChars_nil (j : Json) : ofChars [] ≠ .ok j := nofun

theorem length_lt_of_ofChars {cs : List Char} {s : String} (h : ofChars cs = .ok (.str s)) :
    s.toList.length < cs.length := by
  obtain ⟨k, rest, hr, _, hk⟩ := ofChars_eq_ok_iff.1 h
  have hv := readValue_eq_ok_iff.1 hr
  have hle : (skipBlanks cs).length ≤ cs.length := (List.dropWhile_suffix isJsonBlank).length_le
  generalize skipBlanks cs = tail at hv hle
  cases hv with
  | string hs =>
      cases hk
      have := stringAt_length hs
      rw [List.length_cons] at hle
      omega
  | _ => cases hk

end Dialogue.Json
