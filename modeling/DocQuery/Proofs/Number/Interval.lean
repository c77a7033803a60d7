import DocQuery.Number.Shortest
import Mathlib.Algebra.Order.Field.Power
import Mathlib.Algebra.Order.Ring.Rat
import Mathlib.Order.Compare
import Mathlib.Tactic.FieldSimp
import Mathlib.Tactic.Linarith
import Mathlib.Tactic.NormNum
import Mathlib.Tactic.Positivity
import Mathlib.Tactic.Ring

/-!
# Rounding intervals

The reals that round to a binary64 value make up an interval.  The intervals of consecutive
magnitudes meet in one point, which belongs to the even one of the two, so no decimal lies in the
intervals of two magnitudes (`Binary64.magnitude_eq_of_readsBack`).

The search for the written digits compares scaled naturals; here the same comparisons are read as
comparisons of rationals.

## Main definitions

* `Decimal.value`: a decimal as a rational
* `Binary64.lowerEnd`, `Binary64.upperEnd`: the ends of the interval of a value
* `Binary64.readsBack_iff`, `Binary64.magnitude_eq_of_readsBack`
-/

namespace DocQuery

namespace Decimal

/-- A decimal as a rational. -/
def value (d : Decimal) : ℚ := d.digits * 10 ^ d.exponent

/-- An exponent, split into a part for each side of a comparison. -/
theorem zpow_mul_pow_toNat_neg {base : ℚ} (nonzero : base ≠ 0) (i : ℤ) :
    base ^ i * base ^ (-i).toNat = base ^ i.toNat := by
  have split : i + ((-i).toNat : ℤ) = (i.toNat : ℤ) := by omega
  rw [← zpow_natCast base (-i).toNat, ← zpow_natCast base i.toNat, ← zpow_add₀ nonzero, split]

/-- The comparison of scaled naturals is the comparison of the rationals that they stand for. -/
theorem compareScaled_eq (a : ℕ) (i : ℤ) (b : ℕ) (j : ℤ) :
    compareScaled a i b j = compare ((a : ℚ) * 10 ^ i) (b * 2 ^ j) := by
  have positive : (0 : ℚ) < 10 ^ (-i).toNat * 2 ^ (-j).toNat := by positivity
  have left : (a : ℚ) * 10 ^ i * (10 ^ (-i).toNat * 2 ^ (-j).toNat) =
      ((a * Nat.pow 10 i.toNat <<< (-j).toNat : ℕ) : ℚ) := by
    rw [Nat.shiftLeft_eq, Nat.pow_eq]
    push_cast
    rw [← zpow_mul_pow_toNat_neg (by norm_num : (10 : ℚ) ≠ 0) i]
    ring
  have right : (b : ℚ) * 2 ^ j * (10 ^ (-i).toNat * 2 ^ (-j).toNat) =
      ((b * Nat.pow 10 (-i).toNat <<< j.toNat : ℕ) : ℚ) := by
    rw [Nat.shiftLeft_eq, Nat.pow_eq]
    push_cast
    rw [← zpow_mul_pow_toNat_neg (by norm_num : (2 : ℚ) ≠ 0) j]
    ring
  calc compareScaled a i b j
      = cmp (a * Nat.pow 10 i.toNat <<< (-j).toNat) (b * Nat.pow 10 (-i).toNat <<< j.toNat) := by
        rw [cmp_eq_compare]
        rfl
    _ = cmp ((a : ℚ) * 10 ^ i) (b * 2 ^ j) := by
        rw [← Nat.strictMono_cast.cmp_map_eq (β := ℚ), ← left, ← right, cmp_mul_pos_right positive]
    _ = compare ((a : ℚ) * 10 ^ i) (b * 2 ^ j) := cmp_eq_compare _ _

theorem value_strip (fuel : ℕ) (d : Decimal) : (strip fuel d).value = d.value := by
  induction fuel generalizing d with
  | zero => rfl
  | succ fuel ih =>
      rw [strip]
      split
      · next trailing =>
          rw [ih, value, value]
          have whole : d.digits = d.digits / 10 * 10 := by omega
          have cast : (d.digits : ℚ) = ((d.digits / 10 : ℕ) : ℚ) * 10 := by exact_mod_cast whole
          rw [cast, zpow_add_one₀ (by norm_num : (10 : ℚ) ≠ 0)]
          ring
      · rfl

end Decimal

namespace Binary64

variable {x y : Binary64} {d : Decimal}

/-! ### The interval of a value -/

/-- The lower end of the interval, in quarters of the last place. -/
def lowerQuarters (x : Binary64) : ℕ :=
  if x.narrowBelow then 4 * x.significand - 1 else 4 * x.significand - 2

/-- The lower end of the reals that round to the absolute value. -/
def lowerEnd (x : Binary64) : ℚ := x.lowerQuarters * 2 ^ (x.exponent - 2)

/-- The upper end of the reals that round to the absolute value. -/
def upperEnd (x : Binary64) : ℚ := (4 * x.significand + 2 : ℕ) * 2 ^ (x.exponent - 2)

/-- An even value owns the ends of its interval. -/
def OwnsEnds (x : Binary64) : Prop := x.significand % 2 = 0

theorem readsBack_iff : x.readsBack d = true ↔
    (x.lowerEnd < d.value ∨ x.OwnsEnds ∧ d.value = x.lowerEnd) ∧
      (d.value < x.upperEnd ∨ x.OwnsEnds ∧ d.value = x.upperEnd) := by
  have lower : Decimal.compareScaled d.digits d.exponent x.lowerQuarters (x.exponent - 2) =
      compare d.value x.lowerEnd := Decimal.compareScaled_eq _ _ _ _
  have upper : Decimal.compareScaled d.digits d.exponent (4 * x.significand + 2) (x.exponent - 2) =
      compare d.value x.upperEnd := Decimal.compareScaled_eq _ _ _ _
  rw [lowerQuarters] at lower
  simp only [readsBack, lower, upper, Bool.and_eq_true, Bool.or_eq_true, beq_iff_eq,
    compare_lt_iff_lt, compare_gt_iff_gt, compare_eq_iff_eq, OwnsEnds]

/-! ### Consecutive magnitudes -/

/-- The exponent and fraction bits of a magnitude, and what is read off them. -/
theorem bits_cases (x : Binary64) : ∃ e r, x.magnitude = e * binade + r ∧ r < binade ∧
    (e = 0 ∧ x.significand = r ∧ x.exponent = -1074 ∨
      0 < e ∧ x.significand = binade + r ∧ x.exponent = (e : ℤ) - 1075) ∧
    (x.narrowBelow = true ↔ r = 0 ∧ 1 < e) := by
  have positive : 0 < binade := by decide
  have remainder : x.magnitude % binade < binade := Nat.mod_lt _ positive
  refine ⟨x.magnitude / binade, x.magnitude % binade, ?_, remainder, ?_, ?_⟩
  · rw [Nat.mul_comm]
    exact (Nat.div_add_mod _ _).symm
  · by_cases subnormal : x.magnitude / binade = 0
    · have whole : x.magnitude = x.magnitude % binade := by
        have := Nat.div_add_mod x.magnitude binade
        simp only [subnormal, Nat.mul_zero, Nat.zero_add] at this
        exact this.symm
      left
      simp only [significand, exponent, subnormal, if_true, true_and, and_true]
      exact whole
    · right
      simp only [significand, exponent, subnormal, if_false, and_true]
      exact Nat.pos_of_ne_zero subnormal
  · simp [narrowBelow]

/-- Of two consecutive magnitudes the interval of the first ends where that of the second begins,
and only one of them owns that point. -/
theorem upperEnd_eq_lowerEnd (next : y.magnitude = x.magnitude + 1) :
    x.upperEnd = y.lowerEnd ∧ ¬(x.OwnsEnds ∧ y.OwnsEnds) := by
  obtain ⟨e, r, wholeX, smallX, formX, narrowX⟩ := x.bits_cases
  obtain ⟨f, s, wholeY, smallY, formY, narrowY⟩ := y.bits_cases
  -- either the fraction grows by one, or it starts again in the next binade
  simp only [show binade = 4503599627370496 from rfl] at *
  have carry : f = e ∧ s = r + 1 ∨ f = e + 1 ∧ s = 0 ∧ r = 4503599627370495 := by omega
  rw [upperEnd, lowerEnd, lowerQuarters, OwnsEnds, OwnsEnds]
  rcases carry with ⟨rfl, rfl⟩ | ⟨rfl, rfl, last⟩
  · have notNarrow : y.narrowBelow = false := by
      rw [Bool.eq_false_iff, Ne, narrowY]
      omega
    have quarters : 4 * x.significand + 2 = 4 * y.significand - 2 := by omega
    have sameExponent : x.exponent = y.exponent := by omega
    rw [notNarrow, quarters, sameExponent]
    refine ⟨rfl, ?_⟩
    omega
  · by_cases subnormal : e = 0
    · subst subnormal
      have notNarrow : y.narrowBelow = false := by
        rw [Bool.eq_false_iff, Ne, narrowY]
        omega
      have quarters : 4 * x.significand + 2 = 4 * y.significand - 2 := by omega
      have sameExponent : x.exponent = y.exponent := by omega
      rw [notNarrow, quarters, sameExponent]
      refine ⟨rfl, ?_⟩
      omega
    · -- the last place doubles, and so the gap below the new binade is the old one
      have narrow : y.narrowBelow = true := narrowY.mpr ⟨rfl, by omega⟩
      have quarters : 4 * x.significand + 2 = 2 * (4 * y.significand - 1) := by omega
      have nextExponent : y.exponent - 2 = x.exponent - 2 + 1 := by omega
      rw [narrow, if_pos rfl, quarters, nextExponent, zpow_add_one₀ (by norm_num : (2 : ℚ) ≠ 0)]
      refine ⟨by push_cast; ring, ?_⟩
      omega

theorem lowerEnd_lt_upperEnd (x : Binary64) : x.lowerEnd < x.upperEnd := by
  have quarters : x.lowerQuarters < 4 * x.significand + 2 := by
    rw [lowerQuarters]
    split <;> omega
  have positive : (0 : ℚ) < 2 ^ (x.exponent - 2) := by positivity
  exact mul_lt_mul_of_pos_right (by exact_mod_cast quarters) positive

/-- The interval of a smaller magnitude lies below that of a greater one. -/
theorem upperEnd_le_lowerEnd (less : x.magnitude < y.magnitude) : x.upperEnd ≤ y.lowerEnd := by
  obtain ⟨gap, reached⟩ := Nat.exists_eq_add_of_lt less
  clear less
  induction gap generalizing y with
  | zero => exact (upperEnd_eq_lowerEnd reached).1.le
  | succ gap ih =>
      -- the value just below `y` is finite, because `y` is
      let below : Binary64 := ⟨false, x.magnitude + gap + 1, by have := y.finite; omega⟩
      have step : below.upperEnd = y.lowerEnd := (upperEnd_eq_lowerEnd (x := below) reached).1
      calc x.upperEnd ≤ below.lowerEnd := ih rfl
        _ ≤ below.upperEnd := below.lowerEnd_lt_upperEnd.le
        _ = y.lowerEnd := step

/-- No decimal lies both in the interval of a magnitude and in that of a greater one. -/
theorem not_readsBack_of_lt (less : x.magnitude < y.magnitude) (inX : x.readsBack d = true)
    (inY : y.readsBack d = true) : False := by
  obtain ⟨-, belowX⟩ := readsBack_iff.mp inX
  obtain ⟨aboveY, -⟩ := readsBack_iff.mp inY
  have apart := upperEnd_le_lowerEnd less
  -- the decimal can only be the point where the intervals meet, and both own it
  have meetX : x.OwnsEnds ∧ d.value = x.upperEnd := by
    rcases belowX with below | meet
    · rcases aboveY with above | ⟨-, same⟩
      · linarith
      · linarith
    · exact meet
  have meetY : y.OwnsEnds ∧ d.value = y.lowerEnd := by
    rcases aboveY with above | meet
    · linarith [meetX.2]
    · exact meet
  rcases Nat.lt_or_ge (x.magnitude + 1) y.magnitude with further | adjacent
  · -- a whole interval lies in between
    let next : Binary64 := ⟨false, x.magnitude + 1, further.trans y.finite⟩
    have first : x.upperEnd = next.lowerEnd := (upperEnd_eq_lowerEnd rfl).1
    have inside := next.lowerEnd_lt_upperEnd
    have second : next.upperEnd ≤ y.lowerEnd := upperEnd_le_lowerEnd further
    linarith [meetX.2, meetY.2]
  · exact (upperEnd_eq_lowerEnd (by omega)).2 ⟨meetX.1, meetY.1⟩

/-- **A decimal reads back as one magnitude only.** -/
theorem magnitude_eq_of_readsBack (inX : x.readsBack d = true) (inY : y.readsBack d = true) :
    x.magnitude = y.magnitude := by
  rcases Nat.lt_trichotomy x.magnitude y.magnitude with less | same | greater
  · exact (not_readsBack_of_lt less inX inY).elim
  · exact same
  · exact (not_readsBack_of_lt greater inY inX).elim

end Binary64

end DocQuery
