import Dust.Json.Number
import Dust.Proofs.Number.Rounding

/-!
# Digits times a power of ten

A number of JSON is computed as its digits times a power of ten, which rounds three times: the
digits, the power and the product. Up to the middle between the two greatest doubles the product is
finite all the same. For small powers a rough bound is enough; for the others, where the digits and
the power leave no room, the greatest product is computed, and no other one rounds beyond it.
-/

open Float.Model UnpackedFloat

namespace Dust.Json

open Number

/-- The middle between the two greatest doubles. -/
def greatestMiddle : Nat := (2 ^ 54 - 3) * 2 ^ 970

/-- A bound of the factors below 2^64 that a power of ten does not carry beyond the middle. -/
def greatestFactor (exponent : Nat) : Nat :=
  min (2 ^ 64) (greatestMiddle / 10 ^ exponent)

/-- How many bits the greatest factor has beyond 53. -/
def factorShift (exponent : Nat) : Nat :=
  (greatestFactor exponent).log2 - 52

/-- The greatest factor rounded to 53 bits. -/
def factorBound (exponent : Nat) : Nat :=
  (2 * greatestFactor exponent / 2 ^ factorShift exponent + 1) / 2

/-- Whether a power of ten times its greatest factor is less than half of a step above the greatest
double, where both are rounded. -/
def fits (exponent : Nat) : Bool :=
  match (powerOfTen exponent).toModel.unpack with
  | .finite _ mantissa power _ =>
    2 ^ 52 ≤ mantissa ∧ mantissa < 2 ^ 53 ∧ -104 ≤ power ∧ factorBound exponent < 2 ^ 53 ∧
      (factorShift exponent = 0 ∨ 2 ^ 52 ≤ factorBound exponent) ∧ factorShift exponent ≤ 64 ∧
      2 * (factorBound exponent * 2 ^ (factorShift exponent + 1074) *
        (mantissa * 2 ^ (power + 1074).toNat)) < (2 ^ 54 - 1) * 2 ^ productExponent
  | _ => false

/-- The greatest products of the powers that are in a table and of the greatest powers fit. -/
theorem fits_of_extreme : ∀ exponent : Fin 309, exponent.val ≤ 22 ∨ 289 ≤ exponent.val →
    fits exponent = true := by
  decide +kernel

/-- A factor is less than half of a step above the greatest factor. -/
theorem lt_factorBound {n exponent : Nat} (small : n < 2 ^ 64)
    (below : n * 10 ^ exponent ≤ greatestMiddle) :
    2 * n < (2 * factorBound exponent + 1) * 2 ^ factorShift exponent := by
  have least : n ≤ greatestFactor exponent :=
    Nat.le_min.mpr ⟨Nat.le_of_lt small,
      (Nat.le_div_iff_mul_le (Nat.pow_pos (by decide))).mpr below⟩
  have rounded : 2 * greatestFactor exponent / 2 ^ factorShift exponent <
      2 * factorBound exponent + 1 := by
    unfold factorBound
    omega
  exact Nat.lt_of_le_of_lt (Nat.mul_le_mul_left 2 least)
    ((Nat.div_lt_iff_lt_mul (Nat.two_pow_pos _)).mp rounded)

/-- A product fits if the greatest one does. -/
theorem isFinite_mul_of_fits {n exponent : Nat} (positive : 0 < n) (small : n < 2 ^ 64)
    (below : n * 10 ^ exponent ≤ greatestMiddle) (fit : fits exponent = true) :
    (Float.ofNat n * powerOfTen exponent).isFinite = true := by
  unfold fits at fit
  split at fit
  · rename_i sign mantissa power mantissaPositive same
    simp only [decide_eq_true_eq] at fit
    obtain ⟨lower, upper, least, boundUpper, normal, short, product⟩ := fit
    have left := isNormal_ofNat positive normal boundUpper short (lt_factorBound small below)
    have right : IsNormal (-104) (mantissa * 2 ^ (power + 1074).toNat)
        (powerOfTen exponent).toModel.unpack :=
      ⟨sign, mantissa, power, mantissaPositive, same, lower, upper, least, Nat.le_refl _⟩
    exact isFinite_mul left right (by decide) (by decide) (by decide) product
  · cases fit

/-- How great small powers of ten are. -/
theorem ten_pow_lt {exponent : Nat} (bounded : exponent ≤ 288) :
    ∃ bits ≤ 957, 10 ^ exponent < 2 ^ bits :=
  ⟨957, Nat.le_refl _,
    Nat.lt_of_le_of_lt (Nat.pow_le_pow_right (by decide) bounded) (by decide +kernel)⟩

/-- A power of ten that is not in a table is at most doubled by rounding. -/
theorem isNormal_powerOfTen {exponent : Nat} (large : 22 < exponent) (bounded : exponent ≤ 288) :
    IsNormal (-53) (2 * 10 ^ exponent * 2 ^ 1074) (powerOfTen exponent).toModel.unpack := by
  have unfolded : (powerOfTen exponent).toModel = Float.Model.pack
      (roundWithAccuracy Format.binary64 .positive (2 ^ 53 * 10 ^ exponent) (-53) .exact) := by
    unfold powerOfTen Float.ofScientific
    simp only
    rw [dif_neg (by omega)]
    change Float.Model.pack (UnpackedFloat.ofScientific Format.binary64 1 exponent) = _
    unfold UnpackedFloat.ofScientific
    rw [dif_neg (by decide), if_neg, if_neg, if_pos (by omega)]
    · rfl
    · change ¬ (exponent : Int) < -((2048 : Int) + 0)
      omega
    · change ¬ (exponent : Int) > 2048
      omega
  obtain ⟨bits, small, power⟩ := ten_pow_lt bounded
  have least : 0 < 10 ^ exponent := Nat.pow_pos (by decide)
  generalize 10 ^ exponent = digits at unfolded power least ⊢
  have nonzero : 2 ^ 53 * digits ≠ 0 := by omega
  have lower := Nat.log2_self_le nonzero
  have upper := Nat.lt_log2_self (n := 2 ^ 53 * digits)
  have log52 : 52 ≤ (2 ^ 53 * digits).log2 := (Nat.le_log2 nonzero).mpr (by omega)
  have few : (2 ^ 53 * digits).log2 < 53 + bits := by
    rw [Nat.log2_lt nonzero, Nat.pow_add]
    exact Nat.mul_lt_mul_of_pos_left power (by decide)
  generalize logIs : (2 ^ 53 * digits).log2 = log at lower upper log52 few
  have below : 2 * (2 ^ 53 * digits) < (2 * 2 ^ 52 + 1) * 2 ^ (log - 51) := by
    have split : 2 ^ (log + 1) = 2 ^ 52 * 2 ^ (log - 51) := by
      rw [← Nat.pow_add]
      congr 1
      omega
    rw [split] at upper
    have positive := Nat.two_pow_pos (log - 51)
    omega
  have normal := @isNormal_roundWithAccuracy .positive _ _ _ (-53) (by omega) (by decide)
    (Nat.le_refl _) (by decide) below
  have exponents : log - 51 + ((-53 : Int) + 1074).toNat = log - 51 + 1021 := rfl
  rw [exponents] at normal
  rw [unfolded]
  refine (normal.pack (by decide) (mul_two_pow_lt (by decide) _) (by omega)).weaken
    (Int.le_refl _) ?_
  obtain ⟨rest, unit, shift⟩ : ∃ rest, 1074 = 52 + rest ∧ 52 + (log - 51 + 1021) = log + rest :=
    ⟨1022, rfl, by omega⟩
  calc 2 ^ 52 * 2 ^ (log - 51 + 1021) = 2 ^ log * 2 ^ rest := by
        rw [← Nat.pow_add, shift, Nat.pow_add]
    _ ≤ 2 ^ 53 * digits * 2 ^ rest := Nat.mul_le_mul_right _ lower
    _ = 2 * digits * 2 ^ 1074 := by
        rw [unit, Nat.pow_add 2 52 rest, ← Nat.mul_assoc]
        congr 1
        omega

/-- A number below 2^64 times a small power of ten is finite. -/
theorem isFinite_mul_of_small {n exponent : Nat} (positive : 0 < n) (small : n < 2 ^ 64)
    (large : 22 < exponent) (bounded : exponent ≤ 288) :
    (Float.ofNat n * powerOfTen exponent).isFinite = true := by
  have left := @isNormal_ofNat n (2 ^ 52) 12 positive (.inr (Nat.le_refl _))
    (by decide) (by decide) (by omega)
  have right := isNormal_powerOfTen large bounded
  refine isFinite_mul left right (by decide) (by decide) (by decide) ?_
  obtain ⟨bits, few, power⟩ := ten_pow_lt bounded
  generalize 10 ^ exponent = digits at power
  obtain ⟨unit, unitIs, steps⟩ : ∃ unit, 1074 = unit ∧ productExponent = 971 + (unit + unit) :=
    ⟨1074, rfl, rfl⟩
  rw [unitIs, steps, Nat.pow_add 2 12 unit]
  calc 2 * (2 ^ 52 * (2 ^ 12 * 2 ^ unit) * (2 * digits * 2 ^ unit))
      = (2 * 2 ^ 52 * 2 ^ 12 * 2) * digits * (2 ^ unit * 2 ^ unit) := by ac_rfl
    _ = 2 ^ 66 * digits * 2 ^ (unit + unit) := by
        rw [← Nat.pow_add 2 unit unit, show 2 * 2 ^ 52 * 2 ^ 12 * 2 = 2 ^ 66 from rfl]
    _ < 2 ^ 66 * 2 ^ bits * 2 ^ (unit + unit) :=
        Nat.mul_lt_mul_of_pos_right (Nat.mul_lt_mul_of_pos_left power (by decide))
          (Nat.two_pow_pos _)
    _ ≤ 2 ^ 53 * 2 ^ (971 + (unit + unit)) := by
        rw [← Nat.pow_add 2 66 bits, ← Nat.pow_add 2 (66 + bits) (unit + unit),
          ← Nat.pow_add 2 53 (971 + (unit + unit))]
        exact Nat.pow_le_pow_right (by decide) (by omega)
    _ ≤ (2 ^ 54 - 1) * 2 ^ (971 + (unit + unit)) := Nat.mul_le_mul_right _ (by decide)

/-- A number below 2^64 times a power of ten is finite up to the middle between the two greatest
doubles. -/
theorem isFinite_mul_powerOfTen {n exponent : Nat} (positive : 0 < n) (small : n < 2 ^ 64)
    (below : n * 10 ^ exponent ≤ greatestMiddle) (bounded : exponent ≤ maxPower) :
    (Float.ofNat n * powerOfTen exponent).isFinite = true := by
  have index : exponent < 309 := Nat.lt_succ_of_le bounded
  by_cases rough : 22 < exponent ∧ exponent ≤ 288
  · exact isFinite_mul_of_small positive small rough.1 rough.2
  · exact isFinite_mul_of_fits positive small below
      (fits_of_extreme ⟨exponent, index⟩ (by simp only; omega))

/-- A power of ten that the middle is not below is not too great. -/
theorem le_maxPower {n exponent : Nat} (positive : 0 < n)
    (below : n * 10 ^ exponent ≤ greatestMiddle) : exponent ≤ maxPower := by
  have power : 10 ^ exponent < 10 ^ 309 :=
    Nat.lt_of_le_of_lt (Nat.le_trans (Nat.le_mul_of_pos_left _ positive) below)
      (by decide +kernel)
  have := (Nat.pow_lt_pow_iff_right (by decide)).mp power
  simp only [maxPower]
  omega

/-- Digits times a power of ten have a value up to the middle between the two greatest doubles. -/
theorem scaled?_isSome {n : Nat} {exponent : Int} (small : n < 2 ^ 64)
    (bounded : 0 ≤ exponent → 0 < n ∧ n * 10 ^ exponent.toNat ≤ greatestMiddle) :
    (scaled? (Float.ofNat n) exponent).isSome = true := by
  unfold scaled?
  split
  · rename_i nonneg
    obtain ⟨positive, below⟩ := bounded nonneg
    have few := le_maxPower positive below
    rw [if_pos (by omega)]
    simp only [isFinite_mul_powerOfTen positive small below few, if_true, Option.isSome_some]
  · split
    · rfl
    · split <;> rfl

end Dust.Json
