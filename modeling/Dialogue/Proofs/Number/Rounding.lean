import Dialogue.Number.Basic
import Mathlib.Algebra.Order.Ring.Nat
import Mathlib.Tactic.Ring

/-!
# Rounding to binary64

`round` gives the binary64 number nearest to a fraction, and of two equally near ones the one with
the even mantissa. The numbers with scales from the one chosen upwards lie on a grid, on which the
nearest point is found by one division; the numbers with smaller scales lie below a grid point that
is itself below the fraction. Distances are counted in whole parts of a step.

Rounding keeps the order of whole numbers, so two of them that are not rounded to the same number
compare as their rounded values do. Up to `2 ^ 53` a whole number is its own rounded value.
-/
namespace Dialogue

theorem pow2_add (j k : Nat) : pow2 (j + k) = pow2 j * pow2 k := Nat.pow_add 2 j k

theorem pow2_pos (k : Nat) : 0 < pow2 k := Nat.two_pow_pos k

theorem pow2_le {j k : Nat} (h : j ≤ k) : pow2 j ≤ pow2 k := Nat.pow_le_pow_right (by decide) h

def gap (m n : Nat) : Nat := ((m : Int) - n).natAbs

theorem multiples_apart (j k d : Nat) : j * d = k * d ∨ j * d + d ≤ k * d ∨ k * d + d ≤ j * d := by
  rcases Nat.lt_trichotomy j k with h | rfl | h
  · have hle := Nat.mul_le_mul_right d (Nat.succ_le_of_lt h)
    rw [Nat.succ_mul] at hle
    exact .inr (.inl hle)
  · exact .inl rfl
  · have hle := Nat.mul_le_mul_right d (Nat.succ_le_of_lt h)
    rw [Nat.succ_mul] at hle
    exact .inr (.inr hle)

theorem nearestEven_cases (n d : Nat) :
    (nearestEven n d = n / d ∧ 2 * (n % d) < d) ∨
      (nearestEven n d = n / d + 1 ∧ d < 2 * (n % d)) ∨
      (nearestEven n d = n / d + n / d % 2 ∧ 2 * (n % d) = d) := by
  unfold nearestEven
  dsimp only
  split
  · exact .inl ⟨rfl, by assumption⟩
  · split
    · exact .inr (.inl ⟨rfl, by assumption⟩)
    · exact .inr (.inr ⟨rfl, by omega⟩)

/-- No multiple is nearer, and another one that is as near leaves an even factor. -/
theorem nearestEven_nearest {d : Nat} (hd : 0 < d) (n k : Nat) :
    gap n (nearestEven n d * d) ≤ gap n (k * d) ∧
      (gap n (nearestEven n d * d) = gap n (k * d) → k * d ≠ nearestEven n d * d →
        nearestEven n d % 2 = 0) := by
  have hn : n / d * d + n % d = n := by rw [Nat.mul_comm, Nat.div_add_mod]
  have hr : n % d < d := Nat.mod_lt n hd
  have hnext : (n / d + 1) * d = n / d * d + d := Nat.succ_mul _ _
  have hbelow := multiples_apart k (n / d) d
  have habove := multiples_apart k (n / d + 1) d
  unfold gap
  rcases nearestEven_cases n d with ⟨he, h⟩ | ⟨he, h⟩ | ⟨he, h⟩
  · rw [he]
    omega
  · rw [he, hnext]
    omega
  · have heven : (n / d + n / d % 2) % 2 = 0 := by omega
    refine ⟨?_, fun _ _ => he ▸ heven⟩
    rcases Nat.mod_two_eq_zero_or_one (n / d) with hm | hm
    · rw [he, hm, Nat.add_zero]
      omega
    · rw [he, hm, hnext]
      omega

namespace Binary64

variable {n d mantissa scale : Nat} {negative : Bool}

/-- The scale of the grid on which `n / d` steps are rounded. -/
def gridScale (n d : Nat) : Nat := Nat.log2 (n / d) - 52

/-- The point of the grid next to `n / d` steps. -/
def gridMantissa (n d : Nat) : Nat := nearestEven n (d * pow2 (gridScale n d))

/-- A point of a grid as a number; the first point with too long a mantissa lies on the next grid as
well. -/
def ofGrid (negative : Bool) (mantissa scale : Nat) : Binary64 :=
  if mantissa = pow2 53 then ⟨negative, pow2 52, scale + 1⟩ else ⟨negative, mantissa, scale⟩

theorem round_eq_ofGrid (negative : Bool) (n d : Nat) :
    round negative n d =
      ofGrid negative (gridMantissa (n * pow2 1074) d) (gridScale (n * pow2 1074) d) := rfl

theorem negative_ofGrid : (ofGrid negative mantissa scale).negative = negative := by
  unfold ofGrid
  split <;> rfl

theorem magnitude_ofGrid : (ofGrid negative mantissa scale).magnitude = mantissa * pow2 scale := by
  unfold ofGrid magnitude
  split
  · rename_i h
    change pow2 52 * pow2 (scale + 1) = mantissa * pow2 scale
    rw [h, ← pow2_add, ← pow2_add]
    exact congrArg pow2 (by omega)
  · rfl

theorem scale_ofGrid_le : (ofGrid negative mantissa scale).scale ≤ scale + 1 := by
  unfold ofGrid
  split
  · exact Nat.le_refl _
  · exact Nat.le_succ _

theorem mantissa_ofGrid_lt (h : mantissa ≤ pow2 53) :
    (ofGrid negative mantissa scale).mantissa < pow2 53 := by
  unfold ofGrid
  split
  · exact (by decide : pow2 52 < pow2 53)
  · rename_i hne
    exact Nat.lt_of_le_of_ne h hne

theorem mantissa_ofGrid_even (h : mantissa % 2 = 0) :
    (ofGrid negative mantissa scale).mantissa % 2 = 0 := by
  unfold ofGrid
  split
  · exact (by decide : pow2 52 % 2 = 0)
  · exact h

/-- On a grid other than the finest, a fraction lies above the points with a shorter mantissa. -/
theorem le_of_gridScale (hd : 0 < d) (h : gridScale n d ≠ 0) :
    pow2 52 * (d * pow2 (gridScale n d)) ≤ n := by
  have hlog : Nat.log2 (n / d) = gridScale n d + 52 := by
    unfold gridScale at h ⊢
    omega
  have hne : n / d ≠ 0 := by
    intro hz
    rw [hz, Nat.log2_zero] at hlog
    omega
  have hle : pow2 (gridScale n d + 52) ≤ n / d := hlog ▸ Nat.log2_self_le hne
  calc pow2 52 * (d * pow2 (gridScale n d)) = pow2 (gridScale n d + 52) * d := by
        rw [pow2_add]
        ring
    _ ≤ n := (Nat.le_div_iff_mul_le hd).1 hle

theorem gridMantissa_le (n d : Nat) : gridMantissa n d ≤ pow2 53 := by
  have hlog : n / d < pow2 (Nat.log2 (n / d) + 1) := Nat.lt_log2_self
  have hfits : n / d < pow2 (gridScale n d + 53) := by
    refine Nat.lt_of_lt_of_le hlog (pow2_le ?_)
    unfold gridScale
    omega
  have hquotient : n / (d * pow2 (gridScale n d)) < pow2 53 := by
    rw [← Nat.div_div_eq_div_mul, Nat.div_lt_iff_lt_mul (pow2_pos _), ← pow2_add, Nat.add_comm 53]
    exact hfits
  unfold gridMantissa
  rcases nearestEven_cases n (d * pow2 (gridScale n d)) with h | h | h <;> omega

theorem gridScale_le {k : Nat} (h : n / d < pow2 (k + 52)) : gridScale n d ≤ k := by
  unfold gridScale
  by_cases hz : n / d = 0
  · rw [hz, Nat.log2_zero]
    omega
  · have hlog : Nat.log2 (n / d) < k + 52 := (Nat.log2_lt hz).2 h
    omega

/-- A number with a smaller scale lies below the points of a grid with a full mantissa. -/
theorem magnitude_lt_of_scale_lt {x : Binary64} (hx : x.mantissa < pow2 53) (h : x.scale < scale) :
    x.magnitude < pow2 52 * pow2 scale := by
  calc x.mantissa * pow2 x.scale < pow2 53 * pow2 x.scale :=
        Nat.mul_lt_mul_of_pos_right hx (pow2_pos _)
    _ = pow2 (53 + x.scale) := (pow2_add _ _).symm
    _ ≤ pow2 (52 + scale) := pow2_le (by omega)
    _ = pow2 52 * pow2 scale := pow2_add _ _

theorem exists_magnitude_eq {x : Binary64} (h : scale ≤ x.scale) :
    ∃ k, x.magnitude = k * pow2 scale := by
  refine ⟨x.mantissa * pow2 (x.scale - scale), ?_⟩
  rw [magnitude, Nat.mul_assoc, ← pow2_add, Nat.sub_add_cancel h]

/-- No number is nearer to `n / d` steps than the point of the grid, and another one that is as near
leaves an even mantissa. -/
theorem gridMantissa_nearest (hd : 0 < d) {x : Binary64} (hx : x.mantissa < pow2 53) :
    gap n (gridMantissa n d * pow2 (gridScale n d) * d) ≤ gap n (x.magnitude * d) ∧
      (gap n (gridMantissa n d * pow2 (gridScale n d) * d) = gap n (x.magnitude * d) →
        x.magnitude ≠ gridMantissa n d * pow2 (gridScale n d) → gridMantissa n d % 2 = 0) := by
  have hgrid : 0 < d * pow2 (gridScale n d) := Nat.mul_pos hd (pow2_pos _)
  have hpoint (k : Nat) : k * pow2 (gridScale n d) * d = k * (d * pow2 (gridScale n d)) := by ring
  rw [hpoint]
  rcases Nat.lt_or_ge x.scale (gridScale n d) with h | h
  -- off the grid `x` lies below a point that is itself below the fraction
  · have hfull := le_of_gridScale hd (Nat.ne_of_gt (Nat.zero_lt_of_lt h))
    have hbelow : x.magnitude * d < pow2 52 * (d * pow2 (gridScale n d)) := by
      rw [← hpoint]
      exact Nat.mul_lt_mul_of_pos_right (magnitude_lt_of_scale_lt hx h) hd
    have hnearest := (nearestEven_nearest hgrid n (pow2 52)).1
    unfold gridMantissa
    unfold gap at hnearest ⊢
    omega
  · obtain ⟨k, hk⟩ := exists_magnitude_eq h
    obtain ⟨hle, heven⟩ := nearestEven_nearest hgrid n k
    rw [hk, hpoint]
    refine ⟨hle, fun he hne => heven he fun hsame => hne ?_⟩
    rw [Nat.eq_of_mul_eq_mul_right hgrid hsame]
    rfl

def IsFinite (x : Binary64) : Prop := x.mantissa < pow2 53 ∧ x.scale ≤ maxScale

/-- How far a number lies from `n / d`, in `d`-th parts of a step. -/
def distance (x : Binary64) (n : Int) (d : Nat) : Nat := (n * pow2 1074 - x.steps * d).natAbs

/-- The finite number nearest to `n / d`; of two, the one with the even mantissa. -/
structure IsNearest (x : Binary64) (n : Int) (d : Nat) : Prop where
  finite : x.IsFinite
  nearest : ∀ y : Binary64, y.IsFinite → x.distance n d ≤ y.distance n d
  even : ∀ y : Binary64, y.IsFinite → y.steps ≠ x.steps → x.distance n d = y.distance n d →
    x.mantissa % 2 = 0

def signed (negative : Bool) (n : Nat) : Int := if negative then -n else n

theorem steps_eq_signed (x : Binary64) : x.steps = signed x.negative x.magnitude := rfl

theorem distance_of_same_sign (x : Binary64) (n d : Nat) :
    x.distance (signed x.negative n) d = gap (n * pow2 1074) (x.magnitude * d) := by
  unfold distance gap signed steps
  push_cast
  split
  · rw [Int.neg_mul, Int.neg_mul]
    omega
  · rfl

theorem distance_of_other_sign (x : Binary64) (n d : Nat) :
    x.distance (signed (!x.negative) n) d = n * pow2 1074 + x.magnitude * d := by
  unfold distance signed steps
  cases x.negative
  · simp only [Bool.not_false, if_true, Bool.false_eq_true, if_false, Int.neg_mul]
    omega
  · simp only [Bool.not_true, if_true, Bool.false_eq_true, if_false, Int.neg_mul]
    omega

theorem signed_zero (negative : Bool) : signed negative 0 = 0 := by
  cases negative <;> rfl

theorem signed_mul (negative : Bool) (m n : Nat) :
    signed negative (m * n) = signed negative m * n := by
  cases negative
  · exact Int.natCast_mul m n
  · simp [signed]

theorem signed_natAbs (n : Int) : signed (n < 0) n.natAbs = n := by
  unfold signed
  split
  · rename_i h
    have hn : n < 0 := of_decide_eq_true h
    omega
  · rename_i h
    have hn : ¬ n < 0 := fun hn => h (decide_eq_true hn)
    omega

theorem gridMantissa_nearest_signed (negative : Bool) (hd : 0 < d) {y : Binary64}
    (hy : y.mantissa < pow2 53) {rounded : Nat}
    (hr : rounded = gridMantissa (n * pow2 1074) d * pow2 (gridScale (n * pow2 1074) d)) :
    gap (n * pow2 1074) (rounded * d) ≤ y.distance (signed negative n) d ∧
      (gap (n * pow2 1074) (rounded * d) = y.distance (signed negative n) d →
        y.steps ≠ signed negative rounded → gridMantissa (n * pow2 1074) d % 2 = 0) := by
  obtain ⟨hle, heven⟩ := gridMantissa_nearest hd hy (n := n * pow2 1074)
  have hzero : (zero false).mantissa < pow2 53 := pow2_pos 53
  obtain ⟨hlez, hevenz⟩ := gridMantissa_nearest hd hzero (n := n * pow2 1074)
  have hmz : (zero false).magnitude = 0 := Nat.zero_mul _
  rw [hmz, Nat.zero_mul, ← hr] at hlez hevenz
  rw [← hr] at hle heven
  rcases Bool.eq_or_eq_not negative y.negative with rfl | hsign
  · rw [distance_of_same_sign]
    refine ⟨hle, fun he hne => heven he fun hm => hne ?_⟩
    rw [steps_eq_signed, hm]
  -- with the other sign `y` is as far beyond zero as its magnitude says
  · subst hsign
    rw [distance_of_other_sign]
    have hgap : gap (n * pow2 1074) 0 = n * pow2 1074 := by
      unfold gap
      omega
    rw [hgap] at hlez hevenz
    refine ⟨by omega, fun he hne => hevenz (by omega) fun hm => hne ?_⟩
    have hy : y.magnitude * d = 0 := by omega
    have hmagnitude : y.magnitude = 0 := (Nat.mul_eq_zero.1 hy).resolve_right (Nat.ne_of_gt hd)
    rw [steps_eq_signed, hmagnitude, ← hm, signed_zero, signed_zero]

theorem round_zero (negative : Bool) (d : Nat) : round negative 0 d = zero negative := by
  have hpow : ¬ 0 = pow2 53 := Nat.ne_of_lt (pow2_pos 53)
  simp [round, zero, nearestEven, hpow]

/-- Rounding a fraction gives the number nearest to it, unless it lies beyond the largest one. -/
theorem isNearest_round (hd : 0 < d) (h : (round negative n d).overflows = false) :
    (round negative n d).IsNearest (signed negative n) d := by
  have hsign : (round negative n d).negative = negative := by
    rw [round_eq_ofGrid, negative_ofGrid]
  have hmagnitude : (round negative n d).magnitude = gridMantissa (n * pow2 1074) d *
      pow2 (gridScale (n * pow2 1074) d) := by
    rw [round_eq_ofGrid, magnitude_ofGrid]
  have hsteps := steps_eq_signed (round negative n d)
  have hdistance := distance_of_same_sign (round negative n d) n d
  rw [hsign] at hsteps hdistance
  refine ⟨⟨mantissa_ofGrid_lt (gridMantissa_le _ _), ?_⟩, ?_, ?_⟩
  · simpa [overflows] using h
  · intro y hy
    rw [hdistance]
    exact (gridMantissa_nearest_signed negative hd hy.1 hmagnitude).1
  · intro y hy hne he
    rw [hdistance] at he
    rw [hsteps] at hne
    exact mantissa_ofGrid_even ((gridMantissa_nearest_signed negative hd hy.1 hmagnitude).2 he hne)

/-- Nearest numbers keep the order of what they are nearest to. -/
theorem IsNearest.steps_le {x y : Binary64} {m n : Int} {d : Nat} (hd : 0 < d)
    (hx : x.IsNearest m d) (hy : y.IsNearest n d) (h : m < n) : x.steps ≤ y.steps := by
  by_contra hlt
  have hsteps : y.steps * d < x.steps * d :=
    Int.mul_lt_mul_of_pos_right (Int.not_le.1 hlt) (Int.natCast_pos.2 hd)
  have hvalue : m * pow2 1074 < n * pow2 1074 :=
    Int.mul_lt_mul_of_pos_right h (Int.natCast_pos.2 (pow2_pos _))
  have hnear := hx.nearest y hy.finite
  have hnear' := hy.nearest x hx.finite
  unfold distance at hnear hnear'
  omega

theorem exists_steps_eq {n : Int} (h : n.natAbs ≤ pow2 53) :
    ∃ x : Binary64, x.IsFinite ∧ x.steps = n * pow2 1074 := by
  refine ⟨ofGrid (n < 0) n.natAbs 1074, ⟨mantissa_ofGrid_lt h, ?_⟩, ?_⟩
  · exact Nat.le_trans scale_ofGrid_le (by decide : 1074 + 1 ≤ maxScale)
  · rw [steps_eq_signed, negative_ofGrid, magnitude_ofGrid, signed_mul, signed_natAbs]

theorem IsNearest.steps_eq {x : Binary64} {n : Int} (hx : x.IsNearest n 1)
    (h : n.natAbs ≤ pow2 53) : x.steps = n * pow2 1074 := by
  obtain ⟨y, hy, hsteps⟩ := exists_steps_eq h
  have hnear := hx.nearest y hy
  unfold distance at hnear
  rw [hsteps] at hnear
  omega

end Binary64

namespace Whole

theorem natAbs_lt (w : Whole) : w.value.natAbs < pow2 64 := by
  have h : pow2 64 = 18446744073709551616 := by decide
  have hrange := w.inRange
  omega

theorem round_not_overflows (w : Whole) (negative : Bool) :
    (Binary64.round negative w.value.natAbs 1).overflows = false := by
  have hlt : w.value.natAbs * pow2 1074 / 1 < pow2 (1086 + 52) := by
    rw [Nat.div_one, show 1086 + 52 = 64 + 1074 from rfl, pow2_add]
    exact Nat.mul_lt_mul_of_pos_right w.natAbs_lt (pow2_pos _)
  have hscale : (Binary64.round negative w.value.natAbs 1).scale ≤ 1086 + 1 :=
    Nat.le_trans Binary64.scale_ofGrid_le (Nat.succ_le_succ (Binary64.gridScale_le hlt))
  have hmax : 1086 + 1 ≤ Binary64.maxScale := by decide
  exact decide_eq_false (Nat.not_lt.2 (Nat.le_trans hscale hmax))

theorem ofInt_value (w : Whole) :
    Reading.ofInt w.value = .finite (Number.whole w).toBinary64 := by
  rw [Reading.ofInt, Reading.nearest]
  simp only [w.round_not_overflows, Bool.false_eq_true, if_false]
  rfl

theorem isNearest_toBinary64 (w : Whole) : (Number.whole w).toBinary64.IsNearest w.value 1 := by
  have hnearest := Binary64.isNearest_round Nat.one_pos (w.round_not_overflows (w.value < 0))
  rwa [Binary64.signed_natAbs] at hnearest

theorem eq_of_value_eq {a b : Whole} (h : a.value = b.value) : a = b := by
  cases a
  cases b
  cases h
  rfl

/-- Two whole numbers that are not rounded to the same number keep their order. -/
theorem compare_steps {a b : Whole}
    (h : a = b ∨ (Number.whole a).toBinary64.steps ≠ (Number.whole b).toBinary64.steps) :
    compare (Number.whole a).toBinary64.steps (Number.whole b).toBinary64.steps =
      compare a.value b.value := by
  rcases h with rfl | hne
  · rw [Int.compare_eq_eq.2 rfl, Int.compare_eq_eq.2 rfl]
  · rcases Int.lt_trichotomy a.value b.value with hlt | heq | hgt
    · have hle := a.isNearest_toBinary64.steps_le Nat.one_pos b.isNearest_toBinary64 hlt
      rw [Int.compare_eq_lt.2 hlt, Int.compare_eq_lt.2 (Int.lt_iff_le_and_ne.2 ⟨hle, hne⟩)]
    · exact absurd (eq_of_value_eq heq ▸ rfl) hne
    · have hle := b.isNearest_toBinary64.steps_le Nat.one_pos a.isNearest_toBinary64 hgt
      rw [Int.compare_eq_gt.2 hgt, Int.compare_eq_gt.2 (Int.lt_iff_le_and_ne.2 ⟨hle, hne.symm⟩)]

theorem eq_of_steps_eq {a b : Whole} (ha : a.value.natAbs ≤ pow2 53)
    (hb : b.value.natAbs ≤ pow2 53)
    (h : (Number.whole a).toBinary64.steps = (Number.whole b).toBinary64.steps) : a = b := by
  have hpow : (pow2 1074 : Int) ≠ 0 := Int.natCast_ne_zero.2 (Nat.ne_of_gt (pow2_pos _))
  rw [a.isNearest_toBinary64.steps_eq ha, b.isNearest_toBinary64.steps_eq hb] at h
  exact eq_of_value_eq (Int.eq_of_mul_eq_mul_right hpow h)

end Whole

end Dialogue
