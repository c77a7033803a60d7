import DocQuery.Number.Binary64
import Mathlib.Tactic.Linarith

/-!
# Whole numbers as binary64 values

A positive whole number of `e + 1` binary digits is scaled to 53 digits before it is rounded, and the
estimate of the scale is exact, because the divisor is one.  What is rounded away is nothing below
`2 ^ 53` (`Binary64.ofInt_exact`), and never so much that two numbers change places
(`Binary64.ofInt_mono`).

## Main definitions

* `Binary64.nearestMagnitude_one`: the magnitude of a whole number
* `Binary64.ofInt_mono`, `Binary64.ofInt_exact`
-/

namespace DocQuery

namespace Binary64

variable {n k : Nat}

/-! ### Rounding -/

theorem roundedQuotient_one (n : Nat) : roundedQuotient n 1 = n := by
  simp [roundedQuotient, Nat.mod_one, show compare 0 1 = Ordering.lt from rfl]

/-- The quotient is rounded up if more than half is left over, or exactly half above an odd one. -/
theorem roundedQuotient_eq (num den : Nat) :
    roundedQuotient num den = num / den +
      if den < 2 * (num % den) ∨ 2 * (num % den) = den ∧ num / den % 2 = 1 then 1 else 0 := by
  rw [roundedQuotient]
  rcases lt_trichotomy (2 * (num % den)) den with down | half | up
  · rw [Nat.compare_eq_lt.mpr down]
    dsimp only
    rw [if_neg (by omega), Nat.add_zero]
  · rw [Nat.compare_eq_eq.mpr half]
    dsimp only
    split_ifs <;> omega
  · rw [Nat.compare_eq_gt.mpr up]
    dsimp only
    rw [if_pos (.inl up)]

theorem div_le_roundedQuotient (num den : Nat) : num / den ≤ roundedQuotient num den := by
  rw [roundedQuotient_eq]
  exact Nat.le_add_right _ _

theorem roundedQuotient_mono (le : n ≤ k) (den : Nat) :
    roundedQuotient n den ≤ roundedQuotient k den := by
  have quotients : n / den ≤ k / den := Nat.div_le_div_right le
  have left := Nat.div_add_mod n den
  have right := Nat.div_add_mod k den
  rw [roundedQuotient_eq, roundedQuotient_eq]
  rcases quotients.lt_or_eq with less | same
  · split_ifs <;> omega
  · rw [same] at left ⊢
    split_ifs <;> omega

/-! ### The magnitude of a whole number -/

theorem binade_eq : binade = 4503599627370496 := rfl

/-- The number of 53 digits that a whole number is scaled to. -/
def scaledWhole (n : Nat) : Nat := roundedQuotient (n <<< (52 - n.log2)) (1 <<< (n.log2 - 52))

/-- The scaled number has 53 digits before it is rounded. -/
theorem binade_le_scaled (nonzero : n ≠ 0) :
    1 <<< (n.log2 - 52) * binade ≤ n <<< (52 - n.log2) := by
  have digits : 2 ^ n.log2 ≤ n := Nat.log2_self_le nonzero
  rw [Nat.shiftLeft_eq, Nat.shiftLeft_eq, Nat.one_mul, show binade = 2 ^ 52 from rfl, ← Nat.pow_add]
  calc 2 ^ (n.log2 - 52 + 52) = 2 ^ (n.log2 + (52 - n.log2)) := by
        congr 1
        omega
    _ = 2 ^ n.log2 * 2 ^ (52 - n.log2) := Nat.pow_add _ _ _
    _ ≤ n * 2 ^ (52 - n.log2) := Nat.mul_le_mul_right _ digits

theorem binade_le_scaledWhole (nonzero : n ≠ 0) : binade ≤ scaledWhole n := by
  have one : 0 < 1 <<< (n.log2 - 52) := by
    rw [Nat.one_shiftLeft]
    exact Nat.two_pow_pos _
  refine le_trans ?_ (div_le_roundedQuotient _ _)
  rw [Nat.le_div_iff_mul_le one, Nat.mul_comm]
  exact binade_le_scaled nonzero

/-- Below two binades before it is rounded, the scaled number is at most two binades. -/
theorem scaledWhole_le (n : Nat) : scaledWhole n ≤ 2 * binade := by
  have one : 0 < 1 <<< (n.log2 - 52) := by
    rw [Nat.one_shiftLeft]
    exact Nat.two_pow_pos _
  have below : n <<< (52 - n.log2) < 2 * binade * 1 <<< (n.log2 - 52) := by
    rw [Nat.shiftLeft_eq, Nat.one_shiftLeft]
    calc n * 2 ^ (52 - n.log2) < 2 ^ (n.log2 + 1) * 2 ^ (52 - n.log2) :=
          Nat.mul_lt_mul_of_pos_right Nat.lt_log2_self (Nat.two_pow_pos _)
      _ = 2 ^ (53 + (n.log2 - 52)) := by
        rw [← Nat.pow_add]
        congr 1
        omega
      _ = 2 * binade * 2 ^ (n.log2 - 52) := by
        rw [Nat.pow_add]
        rfl
  have quotient := (Nat.div_lt_iff_lt_mul one).mpr below
  rw [scaledWhole, roundedQuotient_eq]
  split_ifs <;> omega

/-- The magnitude of a whole number. -/
theorem nearestMagnitude_one (nonzero : n ≠ 0) :
    nearestMagnitude n 1 = (n.log2 + 1022) * binade + scaledWhole n := by
  have estimate : (n.log2 : Int) - (1 : Nat).log2 - 52 = (n.log2 : Int) - 52 := by
    rw [show (1 : Nat).log2 = 0 from rfl]
    omega
  have up : (-((n.log2 : Int) - 52)).toNat = 52 - n.log2 := by omega
  have down : ((n.log2 : Int) - 52).toNat = n.log2 - 52 := by omega
  have bits : ((n.log2 : Int) - 52 + 1074).toNat = n.log2 + 1022 := by omega
  have exact : ¬n <<< (52 - n.log2) < 1 <<< (n.log2 - 52) * binade :=
    Nat.not_lt.mpr (binade_le_scaled nonzero)
  rw [nearestMagnitude, if_neg nonzero, estimate]
  dsimp only
  rw [up, down, if_neg exact, max_eq_left (by omega), up, down, bits]
  rfl

/-- Rounding keeps the order of whole numbers: a carry out of the rounding only reaches the number of
digits of the greater one. -/
theorem nearestMagnitude_one_mono (le : n ≤ k) : nearestMagnitude n 1 ≤ nearestMagnitude k 1 := by
  by_cases zero : n = 0
  · subst zero
    exact Nat.zero_le _
  have nonzero : k ≠ 0 := by omega
  rw [nearestMagnitude_one zero, nearestMagnitude_one nonzero]
  have digits : n.log2 ≤ k.log2 := (Nat.le_log2 nonzero).mpr ((Nat.log2_self_le zero).trans le)
  rcases digits.lt_or_eq with fewer | same
  · have upper := scaledWhole_le n
    have lower := binade_le_scaledWhole nonzero
    calc (n.log2 + 1022) * binade + scaledWhole n
        ≤ (n.log2 + 1023) * binade + binade := by linarith
      _ ≤ (k.log2 + 1022) * binade + scaledWhole k :=
        Nat.add_le_add (Nat.mul_le_mul_right _ (by omega)) lower
  · rw [scaledWhole, scaledWhole, same]
    refine Nat.add_le_add_left (roundedQuotient_mono ?_ _) _
    rw [Nat.shiftLeft_eq, Nat.shiftLeft_eq]
    exact Nat.mul_le_mul_right _ le

/-! ### The value of a whole number -/

theorem ofInt_natCast (n : Nat) :
    ofInt n = (ofMagnitude? false (nearestMagnitude n 1)).getD (greatest false) := by
  have sign : decide ((n : Int) < 0) = false := decide_eq_false (by omega)
  rw [ofInt, ofQuotient, sign, Int.natAbs_natCast]

theorem negative_ofInt (n : Nat) : (ofInt n).negative = false := by
  rw [ofInt_natCast, ofMagnitude?]
  split <;> rfl

theorem magnitude_ofInt (n : Nat) :
    (ofInt n).magnitude = min (nearestMagnitude n 1) (infiniteMagnitude - 1) := by
  rw [ofInt_natCast, ofMagnitude?]
  split
  · next finite =>
      refine (min_eq_left ?_).symm
      show nearestMagnitude n 1 ≤ infiniteMagnitude - 1
      omega
  · next overflow =>
      refine (min_eq_right ?_).symm
      show infiniteMagnitude - 1 ≤ nearestMagnitude n 1
      omega

/-- **Rounding keeps the order** of whole numbers. -/
theorem ofInt_mono (le : n ≤ k) : (ofInt n).order (ofInt k) ≠ .gt := by
  have magnitudes : (ofInt n).magnitude ≤ (ofInt k).magnitude := by
    rw [magnitude_ofInt, magnitude_ofInt]
    exact min_le_min_right _ (nearestMagnitude_one_mono le)
  rw [order, orderKey, orderKey, negative_ofInt, negative_ofInt, Ne, compare_gt_iff_gt]
  simp only [Bool.false_eq_true, if_false]
  omega

/-- Of a whole number and one, one is not the greater. -/
theorem one_le_ofInt (positive : 1 ≤ n) : (ofInt 1).order (ofInt n) ≠ .gt :=
  ofInt_mono positive

/-- A number of 53 digits is its own scaled number. -/
theorem scaledWhole_of_lt (small : n < 2 ^ 53) :
    scaledWhole n = n * 2 ^ (52 - n.log2) ∧ scaledWhole n < 2 * binade := by
  by_cases zero : n = 0
  · subst zero
    decide
  · have digits : n.log2 < 53 := (Nat.log2_lt zero).mpr small
    have exact : scaledWhole n = n * 2 ^ (52 - n.log2) := by
      rw [scaledWhole, show n.log2 - 52 = 0 by omega, Nat.shiftLeft_zero, roundedQuotient_one,
        Nat.shiftLeft_eq]
    refine ⟨exact, ?_⟩
    calc scaledWhole n = n * 2 ^ (52 - n.log2) := exact
      _ < 2 ^ (n.log2 + 1) * 2 ^ (52 - n.log2) :=
        Nat.mul_lt_mul_of_pos_right Nat.lt_log2_self (Nat.two_pow_pos _)
      _ = 2 ^ (n.log2 + 1 + (52 - n.log2)) := (Nat.pow_add _ _ _).symm
      _ = 2 * binade := by
        rw [show n.log2 + 1 + (52 - n.log2) = 53 by omega]
        rfl

/-- **Whole numbers below `2 ^ 53` are exact**: the quotient of numerator and denominator is the
number. -/
theorem ofInt_exact (small : n < 2 ^ 53) :
    (ofInt n).numerator = n * (ofInt n).denominator := by
  by_cases zero : n = 0
  · subst zero
    decide +kernel
  · have digits : n.log2 < 53 := (Nat.log2_lt zero).mpr small
    obtain ⟨exact, below⟩ := scaledWhole_of_lt small
    have above := binade_le_scaledWhole zero
    have whole := nearestMagnitude_one zero
    simp only [binade_eq] at above below whole
    have finite : nearestMagnitude n 1 < infiniteMagnitude := by
      rw [infiniteMagnitude]
      omega
    have value : ofInt n = ⟨false, nearestMagnitude n 1, finite⟩ := by
      rw [ofInt_natCast, ofMagnitude?, dif_pos finite]
      rfl
    have bits : nearestMagnitude n 1 / binade = n.log2 + 1023 := by
      rw [binade_eq]
      omega
    have fraction : binade + nearestMagnitude n 1 % binade = scaledWhole n := by
      rw [binade_eq]
      omega
    have significand : (ofInt n).significand = scaledWhole n := by
      rw [value, significand, bits, if_neg (by omega), fraction]
    have exponent : (ofInt n).exponent = (n.log2 : Int) - 52 := by
      rw [value, exponent, bits, if_neg (by omega)]
      omega
    rw [numerator, denominator, significand, exponent, exact,
      show ((n.log2 : Int) - 52).toNat = 0 by omega,
      show (-((n.log2 : Int) - 52)).toNat = 52 - n.log2 by omega, Nat.shiftLeft_zero,
      Nat.one_shiftLeft]

end Binary64

end DocQuery
