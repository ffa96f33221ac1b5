import Dialogue.Json.Scan

/-!
# Reading numbers

A number in JSON text ends before the first character that cannot go on with it. What follows is not
looked at: a number is read alike whatever stands behind it, as long as that does not begin with a
digit, a point, a sign or the letter of an exponent.

Passing over a number checks less than reading it, and where both succeed they leave the same text.
-/
namespace Dialogue.Json

/-- What the first character of a text may not be if a number stands in front of it. -/
def continuesNumber (c : Char) : Bool :=
  c.isDigit || c == '.' || c == 'e' || c == 'E' || c == '+' || c == '-'

/-- The text does not go on with a number that stands in front of it. -/
def Stops (rest : List Char) : Prop := ∀ c ∈ rest.head?, continuesNumber c = false

theorem stops_nil : Stops [] := nofun

theorem stops_cons {c : Char} (h : continuesNumber c = false) (rest : List Char) :
    Stops (c :: rest) := by
  rintro d ⟨⟩
  exact h

theorem Stops.head {rest : List Char} (h : Stops rest) {c : Char} (hc : c ∈ rest.head?) :
    c.isDigit = false ∧ c ≠ '.' ∧ c ≠ 'e' ∧ c ≠ 'E' ∧ c ≠ '+' ∧ c ≠ '-' := by
  simpa [continuesNumber, and_assoc] using h c hc

def before {α : Type} (rest : List Char) (read : Option (α × List Char)) :
    Option (α × List Char) :=
  read.map fun r => (r.1, r.2 ++ rest)

theorem before_of_nil {α : Type} {read : Option (α × List Char)} (h : ∀ r ∈ read, r.2 = [])
    (rest : List Char) : before rest read = (read.map (·.1)).map (·, rest) := by
  cases read with
  | none => rfl
  | some r =>
      obtain ⟨a, cs⟩ := r
      obtain rfl : cs = [] := h _ rfl
      rfl

theorem takeWhile_isDigit_eq_nil {cs : List Char} (h : ∀ d ∈ cs.head?, d.isDigit = false) :
    cs.takeWhile Char.isDigit = [] := by
  cases cs with
  | nil => rfl
  | cons c cs => rw [List.takeWhile_cons_of_neg (by simp [h c rfl])]

section
variable {rest : List Char} (h : Stops rest)
include h

theorem Stops.takeWhile_isDigit : rest.takeWhile Char.isDigit = [] :=
  takeWhile_isDigit_eq_nil fun _ hd => (h.head hd).1

theorem Stops.dropWhile_isDigit : rest.dropWhile Char.isDigit = rest := by
  have := List.takeWhile_append_dropWhile (p := Char.isDigit) (l := rest)
  rwa [h.takeWhile_isDigit, List.nil_append] at this

theorem Stops.takeWhile_append (cs : List Char) :
    (cs ++ rest).takeWhile Char.isDigit = cs.takeWhile Char.isDigit := by
  rw [List.takeWhile_append, h.takeWhile_isDigit, List.append_nil]
  split
  · rename_i hl
    exact ((List.takeWhile_prefix _).eq_of_length hl).symm
  · rfl

theorem Stops.dropWhile_append (cs : List Char) :
    (cs ++ rest).dropWhile Char.isDigit = cs.dropWhile Char.isDigit ++ rest := by
  rw [List.dropWhile_append, h.dropWhile_isDigit]
  split
  · rename_i he
    rw [List.isEmpty_iff.1 he, List.nil_append]
  · rfl

end

theorem floatAt_append (negative : Bool) (significand : Nat) (exponent : Int)
    (cs rest : List Char) :
    (floatAt negative significand exponent (cs ++ rest)).toOption =
      before rest (floatAt negative significand exponent cs).toOption := by
  unfold floatAt
  split <;> rfl

/-- The digits of an exponent, after its sign. -/
def unsignedExponentAt (negative : Bool) (significand : Nat) (start : Int) (down : Bool)
    (cs : List Char) : Scan Number :=
  match cs with
  | [] => .error (.before .endInValue [])
  | c :: _ =>
      if !c.isDigit then .error (.within .invalidNumber cs)
      else
        let rest := cs.dropWhile Char.isDigit
        match exponentDigits 0 (cs.takeWhile Char.isDigit) with
        | .ok e => floatAt negative significand (if down then start - e else start + e) rest
        | .error unread =>
            if significand ≠ 0 ∧ !down then
              .error (.before .numberOutOfRange (unread ++ rest))
            else .ok (.float (.zero negative), rest)

theorem exponentAt_of_sign (negative : Bool) (significand : Nat) (start : Int) {c : Char}
    (hc : c = '+' ∨ c = '-') (cs : List Char) :
    exponentAt negative significand start (c :: cs) =
      unsignedExponentAt negative significand start (c = '-') cs := by
  rcases hc with rfl | rfl <;> rfl

theorem exponentAt_of_no_sign (negative : Bool) (significand : Nat) (start : Int)
    {cs : List Char} (h : ∀ c ∈ cs.head?, c ≠ '+' ∧ c ≠ '-') :
    exponentAt negative significand start cs =
      unsignedExponentAt negative significand start false cs := by
  unfold exponentAt unsignedExponentAt
  split
  rename_i heq
  split at heq
  · exact absurd rfl (h _ rfl).1
  · exact absurd rfl (h _ rfl).2
  · cases heq
    rfl

section
variable {rest : List Char} (h : Stops rest) (negative : Bool)
include h

theorem unsignedExponentAt_of_stops (significand : Nat) (start : Int) (down : Bool) :
    (unsignedExponentAt negative significand start down rest).toOption = none := by
  unfold unsignedExponentAt
  cases rest with
  | nil => rfl
  | cons c rest =>
      have hd : c.isDigit = false := (h.head rfl).1
      simp only [hd]
      rfl

theorem unsignedExponentAt_append (significand : Nat) (start : Int) (down : Bool)
    (cs : List Char) :
    (unsignedExponentAt negative significand start down (cs ++ rest)).toOption =
      before rest (unsignedExponentAt negative significand start down cs).toOption := by
  cases cs with
  | nil => exact unsignedExponentAt_of_stops h negative significand start down
  | cons c cs =>
      have ht := h.takeWhile_append (c :: cs)
      have hd := h.dropWhile_append (c :: cs)
      rw [List.cons_append] at ht hd
      simp only [List.cons_append, unsignedExponentAt, ht, hd]
      split
      · rfl
      · split
        · exact floatAt_append _ _ _ _ _
        · split <;> rfl

theorem exponentAt_append (significand : Nat) (start : Int) (cs : List Char) :
    (exponentAt negative significand start (cs ++ rest)).toOption =
      before rest (exponentAt negative significand start cs).toOption := by
  cases cs with
  | nil =>
      have hs : ∀ c ∈ rest.head?, c ≠ '+' ∧ c ≠ '-' := by
        intro c hc
        exact (h.head hc).2.2.2.2
      rw [List.nil_append, exponentAt_of_no_sign _ _ _ hs,
        unsignedExponentAt_of_stops h negative significand]
      rfl
  | cons c cs =>
      by_cases hc : c = '+' ∨ c = '-'
      · rw [List.cons_append, exponentAt_of_sign _ _ _ hc, exponentAt_of_sign _ _ _ hc]
        exact unsignedExponentAt_append h negative significand _ _ _
      · have hs : ∀ d ∈ (c :: cs).head?, d ≠ '+' ∧ d ≠ '-' := by
          rintro d ⟨⟩
          exact not_or.1 hc
        rw [exponentAt_of_no_sign _ _ _ hs, exponentAt_of_no_sign _ _ _ (by exact hs)]
        exact unsignedExponentAt_append h negative significand _ _ _

theorem fractionAt_append (significand : Nat) (start : Int) (cs : List Char) :
    (fractionAt negative significand start (cs ++ rest)).toOption =
      before rest (fractionAt negative significand start cs).toOption := by
  unfold fractionAt
  rw [h.takeWhile_append, h.dropWhile_append]
  generalize cs.takeWhile Char.isDigit = ds
  generalize cs.dropWhile Char.isDigit = tail
  dsimp only
  split
  · cases tail <;> cases rest <;> rfl
  · cases tail with
    | nil =>
        cases rest with
        | nil => exact floatAt_append _ _ _ [] []
        | cons c rest =>
            obtain ⟨_, _, he, hE, _⟩ := h.head rfl
            simp only [List.nil_append, if_neg (not_or.2 ⟨he, hE⟩)]
            exact floatAt_append _ _ _ [] (c :: rest)
    | cons c tail =>
        simp only [List.cons_append]
        split
        · exact exponentAt_append h negative _ _ _
        · exact floatAt_append _ _ _ (c :: tail) rest

theorem afterDigits_append (significand dropped : Nat) (cs : List Char) :
    (afterDigits negative significand dropped (cs ++ rest)).toOption =
      before rest (afterDigits negative significand dropped cs).toOption := by
  -- nothing that belongs to a number follows
  have hplain (tail : List Char) :
      (if dropped = 0 then .ok (wholeNumber negative significand, tail ++ rest)
        else floatAt negative significand dropped (tail ++ rest) : Scan Number).toOption =
      before rest (if dropped = 0 then .ok (wholeNumber negative significand, tail)
        else floatAt negative significand dropped tail : Scan Number).toOption := by
    split
    · rfl
    · exact floatAt_append _ _ _ _ _
  unfold afterDigits
  dsimp only
  cases cs with
  | nil =>
      have hp := hplain []
      cases rest with
      | nil => exact hp
      | cons c rest =>
          obtain ⟨_, hdot, he, hE, _⟩ := h.head rfl
          simp only [List.nil_append, if_neg hdot, if_neg (not_or.2 ⟨he, hE⟩)]
          exact hp
  | cons c cs =>
      simp only [List.cons_append]
      split
      · exact fractionAt_append h negative _ _ _
      · split
        · exact exponentAt_append h negative _ _ _
        · exact hplain (c :: cs)

/-- What follows a number does not change how it is read. -/
theorem numberAt_append (cs : List Char) :
    (numberAt negative (cs ++ rest)).toOption = before rest (numberAt negative cs).toOption := by
  cases cs with
  | nil =>
      cases rest with
      | nil => rfl
      | cons c rest =>
          have hc : c.isDigit = false := (h.head rfl).1
          have hz : c ≠ '0' := by
            rintro rfl
            cases hc
          simp only [List.nil_append, numberAt, if_neg hz, hc]
          rfl
  | cons c cs =>
      have ht := h.takeWhile_append (c :: cs)
      have hd := h.dropWhile_append (c :: cs)
      rw [List.cons_append] at ht hd
      simp only [List.cons_append, numberAt, ht, hd]
      split
      · -- a zero: no digit may follow, and none comes from the text behind
        cases cs with
        | nil =>
            have hp := afterDigits_append h negative 0 0 []
            cases rest with
            | nil => exact hp
            | cons d rest =>
                have hdig : d.isDigit = false := (h.head rfl).1
                simp only [List.nil_append, hdig]
                exact hp
        | cons d cs =>
            simp only [List.cons_append]
            split
            · rfl
            · exact afterDigits_append h negative 0 0 (d :: cs)
      · split
        · exact afterDigits_append h negative _ _ _
        · rfl

end

theorem floatAt_eq_ok {negative : Bool} {significand : Nat} {exponent : Int}
    {rest after : List Char} {n : Number}
    (h : floatAt negative significand exponent rest = .ok (n, after)) : after = rest := by
  unfold floatAt at h
  split at h
  · cases h
    rfl
  · cases h

theorem unsignedExponentAt_eq_ok {negative : Bool} {significand : Nat} {start : Int}
    {down : Bool} {cs rest : List Char} {n : Number}
    (h : unsignedExponentAt negative significand start down cs = .ok (n, rest)) :
    ∃ c tail, cs = c :: tail ∧ c.isDigit = true ∧ rest = cs.dropWhile Char.isDigit := by
  unfold unsignedExponentAt at h
  split at h
  · cases h
  · rename_i c tail
    split at h
    · cases h
    · rename_i hc
      refine ⟨c, tail, rfl, by simpa using hc, ?_⟩
      dsimp only at h
      split at h
      · exact floatAt_eq_ok h
      · split at h
        · cases h
        · cases h
          rfl

theorem skipExponent_of_sign {c : Char} (hc : c = '+' ∨ c = '-') {d : Char}
    (hd : d.isDigit = true) (cs : List Char) :
    skipExponent (c :: d :: cs) = .ok ((d :: cs).dropWhile Char.isDigit) := by
  rcases hc with rfl | rfl <;> simp [skipExponent, hd]

theorem skipExponent_of_exponentAt {negative : Bool} {significand : Nat} {start : Int}
    {cs rest : List Char} {n : Number}
    (h : exponentAt negative significand start cs = .ok (n, rest)) :
    skipExponent cs = .ok rest := by
  by_cases hs : ∃ c tail, cs = c :: tail ∧ (c = '+' ∨ c = '-')
  · obtain ⟨c, tail, rfl, hc⟩ := hs
    rw [exponentAt_of_sign _ _ _ hc] at h
    obtain ⟨d, ds, rfl, hd, rfl⟩ := unsignedExponentAt_eq_ok h
    exact skipExponent_of_sign hc hd ds
  · have hn : ∀ c ∈ cs.head?, c ≠ '+' ∧ c ≠ '-' := by
      intro c hc
      cases cs with
      | nil => cases hc
      | cons d tail =>
          cases hc
          exact not_or.1 fun he => hs ⟨c, tail, rfl, he⟩
    rw [exponentAt_of_no_sign _ _ _ hn] at h
    obtain ⟨d, ds, rfl, hd, rfl⟩ := unsignedExponentAt_eq_ok h
    have hne := hn d rfl
    simp [skipExponent, hne.1, hne.2, hd]

/-- The text after a fraction that nobody wants, after its point. -/
def skipFraction (cs : List Char) : Except Fault (List Char) :=
  match cs.takeWhile Char.isDigit, cs.dropWhile Char.isDigit with
  | [], rest => .error (.within .invalidNumber rest)
  | _, [] => .ok []
  | _, e :: after => if e = 'e' ∨ e = 'E' then skipExponent after else .ok (e :: after)

/-- The text after a number that nobody wants, after its digits before the point. -/
def skipTail : List Char → Except Fault (List Char)
  | [] => .ok []
  | d :: rest =>
      if d = '.' then skipFraction rest
      else if d = 'e' ∨ d = 'E' then skipExponent rest
      else .ok (d :: rest)

theorem skipNumber_zero {cs : List Char} (h : ∀ d ∈ cs.head?, d.isDigit = false) :
    skipNumber ('0' :: cs) = skipTail cs := by
  have hh : cs.head?.any Char.isDigit = false := by
    cases cs with
    | nil => rfl
    | cons d cs => exact h d rfl
  unfold skipNumber
  simp only [hh]
  rfl

theorem skipNumber_of_ne_zero {c : Char} (hz : c ≠ '0') (hc : c.isDigit = true) (cs : List Char) :
    skipNumber (c :: cs) = skipTail ((c :: cs).dropWhile Char.isDigit) := by
  unfold skipNumber
  simp only [hz, hc, if_false]
  rfl

theorem skipFraction_of_fractionAt {negative : Bool} {significand : Nat} {start : Int}
    {cs rest : List Char} {n : Number}
    (h : fractionAt negative significand start cs = .ok (n, rest)) :
    skipFraction cs = .ok rest := by
  unfold fractionAt at h
  unfold skipFraction
  generalize cs.takeWhile Char.isDigit = ds at h ⊢
  generalize cs.dropWhile Char.isDigit = tail at h ⊢
  cases ds with
  | nil => cases tail <;> cases h
  | cons d ds =>
      cases tail with
      | nil =>
          cases floatAt_eq_ok h
          rfl
      | cons e after =>
          simp only [List.isEmpty_cons] at h ⊢
          split at h
          · cases ‹false = true›
          · split at h
            · rename_i he
              rw [if_pos he]
              exact skipExponent_of_exponentAt h
            · rename_i he
              rw [if_neg he, floatAt_eq_ok h]

theorem skipTail_of_afterDigits {negative : Bool} {significand dropped : Nat}
    {cs rest : List Char} {n : Number}
    (h : afterDigits negative significand dropped cs = .ok (n, rest)) :
    skipTail cs = .ok rest := by
  -- nothing that belongs to a number follows
  have hplain {tail : List Char}
      (hp : (if dropped = 0 then .ok (wholeNumber negative significand, tail)
        else floatAt negative significand dropped tail : Scan Number) = .ok (n, rest)) :
      rest = tail := by
    split at hp
    · cases hp
      rfl
    · exact floatAt_eq_ok hp
  unfold afterDigits at h
  cases cs with
  | nil =>
      cases hplain h
      rfl
  | cons c cs =>
      dsimp only at h
      rw [skipTail]
      split at h
      · rename_i hc
        rw [if_pos hc]
        exact skipFraction_of_fractionAt h
      · rename_i hc
        rw [if_neg hc]
        split at h
        · rename_i he
          rw [if_pos he]
          exact skipExponent_of_exponentAt h
        · rename_i he
          rw [if_neg he, hplain h]

/-- A number that can be read can be passed over, with the same text left. -/
theorem skipNumber_of_numberAt {negative : Bool} {cs rest : List Char} {n : Number}
    (h : numberAt negative cs = .ok (n, rest)) : skipNumber cs = .ok rest := by
  unfold numberAt at h
  split at h
  · cases h
  · rename_i c after
    split at h
    · rename_i hz
      subst hz
      split at h
      · rename_i d tail
        split at h
        · cases h
        · rename_i hd
          rw [skipNumber_zero]
          · exact skipTail_of_afterDigits h
          · rintro e ⟨⟩
            simpa using hd
      · exact skipTail_of_afterDigits h
    · rename_i hz
      split at h
      · rename_i hc
        rw [skipNumber_of_ne_zero hz hc]
        exact skipTail_of_afterDigits h
      · cases h

end Dialogue.Json
