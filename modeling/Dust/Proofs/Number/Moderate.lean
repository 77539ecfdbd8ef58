import Dust.Proofs.Number.Whole

/-!
# Operations that stay finite

The doubles of 64-bit integers are far from the greatest double, and so is what comes of adding,
subtracting, multiplying and dividing two of them. Rounding raises the exponent of a result by one at
most, whatever bits are dropped. So it is enough to count the bits that a result has before it is
rounded.
-/

open Float.Model UnpackedFloat

namespace Dust.Number

/-! ### Rounding keeps results finite -/

/-- A zero is finite. -/
theorem isFinite_pack_zero (sign : Sign) : (Float.Model.pack (.zero sign)).isFinite = true := by
  cases sign <;> rfl

/-- Dropping bits divides the mantissa. -/
theorem mantissa_shift (extended : ExtendedMantissa) (shift : Nat) :
    (extended >>> shift).mantissa = extended.mantissa / 2 ^ shift := by
  induction shift with
  | zero => exact (Nat.div_one _).symm
  | succ shift induction =>
    have next : (extended >>> (shift + 1)).mantissa = (extended >>> shift).mantissa / 2 := rfl
    rw [next, induction, Nat.div_div_eq_div_mul, Nat.pow_succ]

/-- What rounding starts from has the mantissa that it is given. -/
theorem mantissa_ofMantissaAndAccuracy (mantissa : Nat) (accuracy : Accuracy) :
    (ExtendedMantissa.ofMantissaAndAccuracy mantissa accuracy).mantissa = mantissa := by
  rcases accuracy with _ | (_ | _ | _) <;> rfl

/-- A mantissa that is shifted as the format asks for has 53 bits after it is rounded, unless a carry
makes it the next power of two. -/
theorem roundedMantissa_target_le (mantissa : Nat) (exponent : Int) (accuracy : Accuracy) :
    (shiftToTargetExponent Format.binary64 mantissa exponent accuracy).1.roundedMantissa ≤
      2 ^ 53 := by
  let target := Format.binary64.targetExponent (totalExponent mantissa exponent)
  have reached : (mantissa.log2 : Int) + 1 + exponent - 53 ≤ target := Int.le_max_left _ _
  let shift := (target - exponent).toNat
  have bits : mantissa < 2 ^ (53 + shift) :=
    Nat.lt_of_lt_of_le Nat.lt_log2_self (Nat.pow_le_pow_right (by decide) (by omega))
  have few : (ExtendedMantissa.ofMantissaAndAccuracy mantissa accuracy >>> shift).mantissa <
      2 ^ 53 := by
    rw [mantissa_shift, mantissa_ofMantissaAndAccuracy, Nat.div_lt_iff_lt_mul (Nat.two_pow_pos _),
      ← Nat.pow_add]
    exact bits
  have bit := Bool.toNat_lt
    (ExtendedMantissa.ofMantissaAndAccuracy mantissa accuracy >>> shift).roundBit
  have rounded : (ExtendedMantissa.ofMantissaAndAccuracy mantissa accuracy >>>
      shift).roundedMantissa ≤ 2 ^ 53 := roundedMantissa_le (by omega)
  exact rounded

/-- The exponent that the format asks for is not above one that leaves room for the bits of the
mantissa. -/
theorem exponent_target_le {mantissa bits : Nat} {exponent bound : Int} (accuracy : Accuracy)
    (below : mantissa < 2 ^ bits) (total : bits + exponent ≤ bound + 53) (bounded : exponent ≤ bound)
    (least : -1074 ≤ bound) :
    (shiftToTargetExponent Format.binary64 mantissa exponent accuracy).2 ≤ bound := by
  have log : (mantissa.log2 : Int) + exponent ≤ bound + 52 := by
    rcases Nat.eq_zero_or_pos mantissa with rfl | positive
    · have none : Nat.log2 0 = 0 := rfl
      omega
    · have fewer := (Nat.log2_lt (by omega)).mpr below
      omega
  have target : Format.binary64.targetExponent (totalExponent mantissa exponent) ≤ bound :=
    Int.max_le.mpr ⟨show (mantissa.log2 : Int) + 1 + exponent - 53 ≤ bound by omega, least⟩
  change exponent + (Format.binary64.targetExponent (totalExponent mantissa exponent) -
    exponent).toNat ≤ bound
  omega

/-- A result of not too many bits is finite after it is rounded. -/
theorem isFinite_pack_roundWithAccuracy (sign : Sign) {mantissa bits : Nat} {exponent : Int}
    (accuracy : Accuracy) (below : mantissa < 2 ^ bits) (total : bits + exponent ≤ 1023)
    (bounded : exponent ≤ 970) :
    (Float.Model.pack
      (roundWithAccuracy Format.binary64 sign mantissa exponent accuracy)).isFinite = true := by
  let first := shiftToTargetExponent Format.binary64 mantissa exponent accuracy
  let second :=
    shiftToTargetExponent Format.binary64 first.1.roundedMantissa first.2 .exact
  have firstLe : first.2 ≤ 970 :=
    exponent_target_le accuracy below (by omega) bounded (by decide)
  have roundedLe : first.1.roundedMantissa ≤ 2 ^ 53 := roundedMantissa_target_le _ _ _
  have rounded : first.1.roundedMantissa < 2 ^ 54 := Nat.lt_of_le_of_lt roundedLe (by decide)
  -- a carry makes 54 bits of 53, so the exponent is raised once more
  have secondLe : second.2 ≤ maxExponent :=
    exponent_target_le .exact rounded (by simp only [maxExponent]; omega)
      (by simp only [maxExponent]; omega) (by decide)
  have whole : roundWithAccuracy Format.binary64 sign mantissa exponent accuracy =
      if isZero : second.1.mantissa = 0 then .zero sign
      else .finite sign second.1.mantissa second.2 (Nat.pos_of_ne_zero isZero) := rfl
  rw [whole]
  split
  · exact isFinite_pack_zero sign
  · exact isFinite_pack _ secondLe

/-- A number of not too many bits is finite after it is rounded. -/
theorem isFinite_pack_round (sign : Sign) {mantissa bits : Nat} {exponent : Int}
    (below : mantissa < 2 ^ bits) (total : bits + exponent ≤ 1023) (bounded : exponent ≤ 970) :
    (Float.Model.pack (UnpackedFloat.round Format.binary64 sign mantissa exponent)).isFinite =
      true := by
  let shift := (exponent - Format.binary64.targetExponent (totalExponent mantissa exponent)).toNat
  have shifted : mantissa <<< shift < 2 ^ (bits + shift) := by
    rw [Nat.shiftLeft_eq, Nat.pow_add]
    exact Nat.mul_lt_mul_of_pos_right below (Nat.two_pow_pos _)
  exact isFinite_pack_roundWithAccuracy sign .exact shifted (by omega) (by omega)

/-- An integer of not too many bits is finite after it is rounded. -/
theorem isFinite_pack_normalize {n : Int} {bits : Nat} {exponent : Int} (zeroSign : Sign)
    (below : n.natAbs < 2 ^ bits) (total : bits + exponent ≤ 1023) (bounded : exponent ≤ 970) :
    (Float.Model.pack (UnpackedFloat.normalize Format.binary64 n exponent zeroSign)).isFinite =
      true := by
  unfold UnpackedFloat.normalize
  split
  · exact isFinite_pack_round _ (by omega) total bounded
  · exact isFinite_pack_zero _
  · exact isFinite_pack_round _ (by omega) total bounded

/-- The magnitude of a sum is at most the sum of the magnitudes. -/
theorem natAbs_apply_add_le (s t : Sign) (m n : Nat) :
    (s.apply m + t.apply n).natAbs ≤ m + n := by
  cases s <;> cases t <;> simp only [Sign.apply] <;> omega

/-! ### Moderate numbers -/

/-- A number is zero, or it has at most 53 bits and an exponent that is far from the bounds. -/
inductive IsModerate : UnpackedFloat → Prop where
  /-- Both zeros are moderate. -/
  | zero (sign : Sign) : IsModerate (.zero sign)
  /-- Other numbers are by their exponent. -/
  | finite (sign : Sign) {mantissa : Nat} {exponent : Int} (positive : 0 < mantissa)
      (upper : mantissa < 2 ^ 53) (least : -64 ≤ exponent) (greatest : exponent ≤ 64) :
      IsModerate (.finite sign mantissa exponent positive)

namespace IsModerate

variable {x y : UnpackedFloat} (first : IsModerate x) (second : IsModerate y)

include first

/-- A moderate number is finite. -/
theorem isFinite_pack : (Float.Model.pack x).isFinite = true := by
  cases first with
  | zero sign => exact isFinite_pack_zero sign
  | finite sign positive _ _ greatest =>
    exact Number.isFinite_pack positive (by simp only [maxExponent]; omega)

/-- A moderate number is moderate with the other sign. -/
theorem neg : IsModerate x.neg := by
  cases first with
  | zero sign => exact .zero (-sign)
  | finite sign positive upper least greatest => exact .finite (-sign) positive upper least greatest

include second

/-- The sum of moderate numbers is finite. -/
theorem isFinite_add : (Float.Model.pack (UnpackedFloat.add Format.binary64 x y)).isFinite =
    true := by
  cases first with
  | zero sign =>
    cases second with
    | zero other =>
      have either : UnpackedFloat.add Format.binary64 (.zero sign) (.zero other) = .zero sign ∨
          UnpackedFloat.add Format.binary64 (.zero sign) (.zero other) = .zero .positive := by
        cases sign <;> cases other <;> simp [UnpackedFloat.add]
      rcases either with same | same <;> rw [same] <;> exact isFinite_pack_zero _
    | finite other positive upper least greatest =>
      exact (finite other positive upper least greatest).isFinite_pack
  | @finite sign mantissa exponent positive upper least greatest =>
    cases second with
    | zero other => exact (finite sign positive upper least greatest).isFinite_pack
    | @finite other addend power otherPositive otherUpper otherLeast otherGreatest =>
      have shifted {n : Nat} {e : Int} (small : n < 2 ^ 53) (near : e ≤ 64) :
          n <<< (e - min exponent power).toNat < 2 ^ 181 := by
        rw [Nat.shiftLeft_eq]
        exact Nat.lt_of_lt_of_le (mul_two_pow_lt small _)
          (Nat.pow_le_pow_right (by decide) (by omega))
      have sum := natAbs_apply_add_le sign other (mantissa <<< (exponent - min exponent power).toNat)
        (addend <<< (power - min exponent power).toNat)
      have below := Nat.lt_of_le_of_lt sum
        (Nat.add_lt_add (shifted upper greatest) (shifted otherUpper otherGreatest))
      exact @isFinite_pack_normalize _ 182 _ .positive below (by omega) (by omega)

/-- The product of moderate numbers is finite. -/
theorem isFinite_mul : (Float.Model.pack (UnpackedFloat.mul Format.binary64 x y)).isFinite =
    true := by
  cases first with
  | zero sign => cases second <;> exact isFinite_pack_zero _
  | finite sign positive upper least greatest =>
    cases second with
    | zero other => exact isFinite_pack_zero _
    | finite other otherPositive otherUpper otherLeast otherGreatest =>
      have product := Nat.mul_lt_mul'' upper otherUpper
      exact @isFinite_pack_roundWithAccuracy _ _ 106 _ .exact product (by omega) (by omega)

/-- The quotient of moderate numbers is finite, unless it is divided by zero. -/
theorem isFinite_div (nonzero : ∀ sign, y ≠ .zero sign) :
    (Float.Model.pack (UnpackedFloat.div Format.binary64 x y)).isFinite = true := by
  cases second with
  | zero other => exact absurd rfl (nonzero other)
  | @finite other divisor power otherPositive otherUpper otherLeast otherGreatest =>
    cases first with
    | zero sign => exact isFinite_pack_zero _
    | @finite sign mantissa exponent positive upper least greatest =>
      let target := min (exponent - power) (Format.binary64.targetExponent
        (totalExponent mantissa exponent - totalExponent divisor power))
      have reached : target ≤ exponent - power := Int.min_le_left _ _
      let shift := (exponent - power - target).toNat
      have quotient : mantissa <<< shift / divisor < 2 ^ (53 + shift) := by
        rw [Nat.shiftLeft_eq]
        exact Nat.lt_of_le_of_lt (Nat.div_le_self _ _) (mul_two_pow_lt upper _)
      exact isFinite_pack_roundWithAccuracy _ _ quotient (by omega) (by omega)

end IsModerate

/-- An integer with the other sign is its negation. -/
theorem apply_neg (s : Sign) (n : Int) : (-s).apply n = -s.apply n := by
  cases s with
  | positive => rfl
  | negative => exact (Int.neg_neg n).symm

/-- Subtracting a moderate number is adding it with the other sign. -/
theorem sub_eq_add_neg {x y : UnpackedFloat} (first : IsModerate x) (second : IsModerate y) :
    UnpackedFloat.sub Format.binary64 x y = UnpackedFloat.add Format.binary64 x y.neg := by
  cases first with
  | zero sign => cases second <;> rfl
  | finite sign positive =>
    cases second with
    | zero other => rfl
    | finite other otherPositive =>
      simp only [UnpackedFloat.sub, UnpackedFloat.add, UnpackedFloat.neg, apply_neg,
        Int.sub_eq_add_neg]

/-! ### Doubles of integers -/

/-- The steps of an integer of 64 bits are at most those of the greatest one. -/
theorem natAbs_intSteps_le {a : Int} (bounded : a.natAbs ≤ 2 ^ 64) :
    (intSteps a).natAbs ≤ 2 ^ 117 := by
  have greatest : natSteps (2 ^ 64) = 2 ^ 117 :=
    @roundedWhole_shift (2 ^ 52) (Nat.le_refl _) (by decide) 65
  rw [← greatest]
  cases a with
  | ofNat n =>
    have steps : natSteps n ≤ natSteps (2 ^ 64) := natSteps_le bounded
    simp only [intSteps]
    omega
  | negSucc n =>
    have steps : natSteps (n + 1) ≤ natSteps (2 ^ 64) := natSteps_le bounded
    simp only [intSteps]
    omega

/-- A number of not too many steps is moderate. -/
theorem Stands.isModerate {a : Int} {x : UnpackedFloat} (stands : Stands a x)
    (few : a.natAbs ≤ 2 ^ 117) : IsModerate x := by
  cases stands with
  | zero sign => exact .zero sign
  | @finite sign mantissa exponent positive lower upper least greatest =>
    have magnitude : mantissa * 2 ^ (exponent + 53).toNat ≤ 2 ^ 117 := by
      cases sign <;> simpa only [Sign.apply, Int.natAbs_neg, Int.natAbs_natCast] using few
    have power : 2 ^ (52 + (exponent + 53).toNat) ≤ 2 ^ 117 := by
      rw [Nat.pow_add]
      exact Nat.le_trans (Nat.mul_le_mul_right _ lower) magnitude
    have near := (Nat.pow_le_pow_iff_right (by decide)).mp power
    exact .finite sign positive upper (by omega) (by omega)

section Doubles

variable (a b : Int64)

/-- The double of a 64-bit integer is moderate. -/
theorem isModerate_ofInt : IsModerate (Float.ofInt a.toInt).toModel.unpack := by
  have least := a.le_toInt
  have less := a.toInt_lt
  exact (stands_ofInt (by omega)).isModerate (natAbs_intSteps_le (by omega))

/-- The sum of the doubles of two 64-bit integers is finite. -/
theorem isFinite_ofInt_add : (Float.ofInt a.toInt + Float.ofInt b.toInt).isFinite = true :=
  (isModerate_ofInt a).isFinite_add (isModerate_ofInt b)

/-- The difference of the doubles of two 64-bit integers is finite. -/
theorem isFinite_ofInt_sub : (Float.ofInt a.toInt - Float.ofInt b.toInt).isFinite = true := by
  have finite := (isModerate_ofInt a).isFinite_add (isModerate_ofInt b).neg
  rw [← sub_eq_add_neg (isModerate_ofInt a) (isModerate_ofInt b)] at finite
  exact finite

/-- The product of the doubles of two 64-bit integers is finite. -/
theorem isFinite_ofInt_mul : (Float.ofInt a.toInt * Float.ofInt b.toInt).isFinite = true :=
  (isModerate_ofInt a).isFinite_mul (isModerate_ofInt b)

/-- An integer other than zero has steps. -/
theorem intSteps_ne_zero {a : Int} (nonzero : a ≠ 0) : intSteps a ≠ 0 := by
  have one : intSteps 1 = 2 ^ 53 := intSteps_of_small (by decide)
  have minusOne : intSteps (-1) = -2 ^ 53 := intSteps_of_small (by decide)
  rcases Int.lt_or_gt_of_ne nonzero with negative | positive
  · have ordered := intSteps_le (show a ≤ -1 by omega)
    omega
  · have ordered := intSteps_le (show 1 ≤ a by omega)
    omega

variable {b}

/-- The double of an integer other than zero is not zero. -/
theorem unpack_ofInt_ne_zero (nonzero : b.toInt ≠ 0) (sign : Sign) :
    (Float.ofInt b.toInt).toModel.unpack ≠ .zero sign := by
  have least := b.le_toInt
  have less := b.toInt_lt
  have stands : Stands (intSteps b.toInt) _ := stands_ofInt (by omega)
  intro isZero
  rw [isZero] at stands
  generalize steps : intSteps b.toInt = a at stands
  cases stands
  exact intSteps_ne_zero nonzero steps

/-- The quotient of the doubles of two 64-bit integers is finite, unless the second one is zero. -/
theorem isFinite_ofInt_div (nonzero : b.toInt ≠ 0) :
    (Float.ofInt a.toInt / Float.ofInt b.toInt).isFinite = true :=
  (isModerate_ofInt a).isFinite_div (isModerate_ofInt b) (unpack_ofInt_ne_zero nonzero)

end Doubles

end Dust.Number
