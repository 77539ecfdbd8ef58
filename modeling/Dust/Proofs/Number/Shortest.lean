import Mathlib
import Dust.Number.Shortest

/-!
# Bounds of shortest digits

The shortest decimal of a double lies in the interval of the numbers that read back to the double,
so it is not above the upper end of the interval. It has digits other than zero, unless it is zero
as a whole number.
-/

namespace Dust.Number.Decimal

/-- Dropping zeros at the end of digits leaves the others. -/
theorem strip_digits_ne_zero {decimal : Decimal} (nonzero : decimal.digits ≠ 0) (fuel : Nat) :
    (strip fuel decimal).digits ≠ 0 := by
  induction fuel generalizing decimal with
  | zero => exact nonzero
  | succ fuel induction =>
    unfold strip
    split
    · exact induction (by simp only; omega)
    · exact nonzero

/-- The point that is taken is one of the two around the double, is not zero and reads back. -/
theorem Interval.point?_eq_some {interval : Interval} {tie : Tie} {exponent : Int}
    {decimal : Decimal} (found : interval.point? tie exponent = some decimal) :
    decimal.exponent = exponent ∧ decimal.digits ≠ 0 ∧
      interval.holds (powerOfTen (-exponent).toNat)
        (decimal.digits * (interval.denominator * powerOfTen exponent.toNat)) = true := by
  simp only [point?] at found
  split at found
  · rename_i both
    obtain ⟨⟨nonzero, below⟩, above⟩ := both
    cases found
    refine ⟨rfl, ?_⟩
    simp only
    split
    · exact ⟨nonzero, below⟩
    · exact ⟨Nat.succ_ne_zero _, above⟩
    · exact ⟨Nat.succ_ne_zero _, above⟩
    · split
      · exact ⟨nonzero, below⟩
      · exact ⟨Nat.succ_ne_zero _, above⟩
  · split at found
    · rename_i below
      cases found
      exact ⟨rfl, below⟩
    · split at found
      · rename_i above
        cases found
        exact ⟨rfl, Nat.succ_ne_zero _, above⟩
      · cases found

/-- A decimal is at most a natural number. -/
def AtMost (bound : Nat) (decimal : Decimal) : Prop :=
  decimal.digits * 10 ^ decimal.exponent.toNat ≤ bound * 10 ^ (-decimal.exponent).toNat

/-- Dropping zeros at the end of digits keeps a decimal at most as great. -/
theorem AtMost.strip {bound : Nat} {decimal : Decimal} (atMost : AtMost bound decimal)
    (fuel : Nat) : AtMost bound (strip fuel decimal) := by
  induction fuel generalizing decimal with
  | zero => exact atMost
  | succ fuel induction =>
    unfold Decimal.strip
    split
    · rename_i zero
      refine induction ?_
      obtain ⟨tenth, same⟩ : ∃ tenth, decimal.digits = 10 * tenth :=
        ⟨decimal.digits / 10, by omega⟩
      simp only [AtMost, same] at atMost ⊢
      rw [show 10 * tenth / 10 = tenth by omega]
      rcases Int.lt_or_le decimal.exponent 0 with below | above
      · rw [show decimal.exponent.toNat = 0 by omega,
          show (-decimal.exponent).toNat = (-(decimal.exponent + 1)).toNat + 1 by omega,
          Nat.pow_succ, ← Nat.mul_assoc] at atMost
        rw [show (decimal.exponent + 1).toNat = 0 by omega]
        omega
      · rw [show (-decimal.exponent).toNat = 0 by omega, Nat.mul_assoc] at atMost
        rw [show (-(decimal.exponent + 1)).toNat = 0 by omega,
          show (decimal.exponent + 1).toNat = decimal.exponent.toNat + 1 by omega, Nat.pow_succ,
          ← Nat.mul_assoc]
        omega
    · exact atMost

/-- Leading digits of a decimal at their power of ten are at most what the decimal is. -/
theorem AtMost.leading {bound n zeros : Nat} {decimal : Decimal} (atMost : AtMost bound decimal)
    (below : n * 10 ^ zeros ≤ decimal.digits) (nonneg : 0 ≤ decimal.exponent + zeros) :
    n * 10 ^ (decimal.exponent + zeros).toNat ≤ bound := by
  unfold AtMost at atMost
  rcases Int.lt_or_le decimal.exponent 0 with fraction | whole
  · -- the zeros make up for the places after the point
    rw [show decimal.exponent.toNat = 0 by omega, Nat.pow_zero, Nat.mul_one] at atMost
    have split : zeros = (decimal.exponent + zeros).toNat + (-decimal.exponent).toNat := by omega
    rw [split, Nat.pow_add, ← Nat.mul_assoc] at below
    exact Nat.le_of_mul_le_mul_right (Nat.le_trans below atMost) (Nat.pow_pos (by decide))
  · rw [show (-decimal.exponent).toNat = 0 by omega, Nat.pow_zero, Nat.mul_one] at atMost
    rw [show (decimal.exponent + zeros).toNat = zeros + decimal.exponent.toNat by omega,
      Nat.pow_add, ← Nat.mul_assoc]
    exact Nat.le_trans (Nat.mul_le_mul_right _ below) atMost

/-- A double is not above the upper end of its interval. -/
theorem Interval.value_le_high (significand : Nat) (exponent : Int) :
    (Interval.ofBinary significand exponent).value ≤
      (Interval.ofBinary significand exponent).high :=
  Nat.mul_le_mul_right _ (Nat.le_add_right _ _)

/-- The shortest decimal is at most what the upper end of the interval is. -/
theorem shortest_atMost {tie : Tie} {significand : Nat} {exponent : Int} {bound : Nat}
    (high : (Interval.ofBinary significand exponent).high ≤
      bound * (Interval.ofBinary significand exponent).denominator) :
    AtMost bound (shortest tie significand exponent) := by
  have positive : 0 < (Interval.ofBinary significand exponent).denominator :=
    Nat.mul_pos (by decide) (Nat.two_pow_pos _)
  unfold shortest
  simp only
  split
  · rename_i decimal found
    obtain ⟨count, -, found⟩ := List.exists_of_findSome?_eq_some found
    obtain ⟨same, -, holds⟩ := Interval.point?_eq_some found
    apply AtMost.strip
    have inside : decimal.digits * ((Interval.ofBinary significand exponent).denominator *
        10 ^ decimal.exponent.toNat) ≤
        (Interval.ofBinary significand exponent).high * 10 ^ (-decimal.exponent).toNat := by
      rw [← same] at holds
      unfold Interval.holds at holds
      split at holds <;> simp only [Bool.and_eq_true, decide_eq_true_eq] at holds
      · exact holds.2
      · exact Nat.le_of_lt holds.2
    refine Nat.le_of_mul_le_mul_left ?_ positive
    calc (Interval.ofBinary significand exponent).denominator *
          (decimal.digits * 10 ^ decimal.exponent.toNat)
        = decimal.digits * ((Interval.ofBinary significand exponent).denominator *
          10 ^ decimal.exponent.toNat) := Nat.mul_left_comm _ _ _
      _ ≤ bound * (Interval.ofBinary significand exponent).denominator *
          10 ^ (-decimal.exponent).toNat := Nat.le_trans inside (Nat.mul_le_mul_right _ high)
      _ = _ := by rw [Nat.mul_right_comm, Nat.mul_comm]
  · simp only [AtMost, Int.toNat_zero, Int.neg_zero, Nat.pow_zero, Nat.mul_one]
    refine Nat.le_of_mul_le_mul_right (Nat.le_trans (Nat.div_mul_le_self _ _) ?_) positive
    exact Nat.le_trans (Interval.value_le_high _ _) high

/-- Shortest digits that are zero are written without exponent. -/
theorem shortest_exponent {tie : Tie} {significand : Nat} {exponent : Int}
    (zero : (shortest tie significand exponent).digits = 0) :
    (shortest tie significand exponent).exponent = 0 := by
  unfold shortest at zero ⊢
  simp only at zero ⊢
  split
  · rename_i decimal found
    rw [found] at zero
    obtain ⟨count, -, found⟩ := List.exists_of_findSome?_eq_some found
    exact absurd zero (strip_digits_ne_zero (Interval.point?_eq_some found).2.1 _)
  · rfl

end Dust.Number.Decimal
