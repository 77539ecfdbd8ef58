import Mathlib
import Dust.Number.Binary64

/-!
# Rounding to doubles

How far the rounding of products and of natural numbers can carry a double. The operations round to
53 bits and to the nearest, so what is less than half of a step above a number of 53 bits
does not pass it, and what is less than half of a step above the greatest double stays finite.
Magnitudes are counted in steps of the least double, of which every double is a multiple.
-/

open Float.Model UnpackedFloat

namespace Dust.Number

/-! ### Finite doubles -/

namespace Binary64

/-- The exponent field of a double is the field of its bits. -/
theorem toNat_unpackExponent (bits : BitVec Format.binary64.numBits) :
    (unpackExponent bits).toNat = bits.toNat / fractionBound % fieldBound := by
  simp only [unpackExponent, BitVec.toNat_cast, BitVec.extractLsb_toNat, Nat.shiftRight_eq_div_pow]
  rfl

/-- A finite double is a finite number with a significand of 53 bits. -/
theorem exists_finite {x : Float} (isFinite : x.isFinite = true) :
    ∃ negative significand exponent, ofFloat x = finite negative significand exponent ∧
      significand < 2 * fractionBound ∧ exponent ≤ 971 := by
  have fraction := Nat.mod_lt x.toBits.toNat (show fractionBound > 0 by decide)
  have field := Nat.mod_lt (x.toBits.toNat / fractionBound) (show fieldBound > 0 by decide)
  unfold ofFloat
  simp only
  split
  · rename_i last
    have exponent : @unpackExponent Format.binary64 x.toModel.toBits.toBitVec =
        -1#_ := by
      apply BitVec.eq_of_toNat_eq
      rw [toNat_unpackExponent]
      exact last
    unfold Float.isFinite Float.Model.isFinite Float.Model.unpack UnpackedFloat.unpack at isFinite
    simp only [exponent, if_pos] at isFinite
    split at isFinite <;> cases isFinite
  · simp only [fieldBound] at field
    split
    · exact ⟨_, _, _, rfl, by omega, by decide⟩
    · exact ⟨_, _, _, rfl, by omega, by simp only [minExponent, fieldBound] at *; omega⟩

end Binary64

/-- Bits whose exponent field is not the last one are those of a finite number. -/
theorem isFinite_unpack {bits : BitVec Format.binary64.numBits}
    (notLast : unpackExponent bits ≠ -1#_) :
    (UnpackedFloat.unpack Format.binary64 bits).isFinite = true := by
  unfold UnpackedFloat.unpack
  simp only [if_neg notLast]
  split
  · split <;> rfl
  · rfl

/-- The greatest exponent of a finite double. -/
def maxExponent : Int := 971

/-- A number packed with an exponent of finite doubles is finite. -/
theorem isFinite_pack {sign : Sign} {mantissa : Nat} {exponent : Int} (positive : 0 < mantissa)
    (bounded : exponent ≤ maxExponent) :
    (Float.Model.pack (.finite sign mantissa exponent positive)).isFinite = true := by
  have field : ¬ 2 ^ Format.binary64.exponentBits ≤
      (exponent + Format.binary64.exponentBias +
        Format.binary64.mantissaBitsWithoutImplicit).toNat + 1 := by
    change ¬ 2048 ≤ (exponent + 1023 + 52).toNat + 1
    simp only [maxExponent] at bounded
    omega
  apply isFinite_unpack
  simp only [Float.Model.pack, UnpackedFloat.pack, if_neg field]
  split
  · rw [unpackExponent_packComponents]
    intro same
    have values := congrArg BitVec.toNat same
    change (exponent + 1023 + 52).toNat % 2048 = 2047 at values
    change ¬ 2048 ≤ (exponent + 1023 + 52).toNat + 1 at field
    omega
  · rw [unpackExponent_packComponents]
    decide

/-! ### Rounding a mantissa -/

/-- What is left of a mantissa and its next bit after some bits are dropped. -/
theorem shift_mantissa_roundBit (mantissa shift : Nat) :
    2 * (ExtendedMantissa.ofMantissaAndAccuracy mantissa .exact >>> shift).mantissa +
        (ExtendedMantissa.ofMantissaAndAccuracy mantissa .exact >>> shift).roundBit.toNat =
      2 * mantissa / 2 ^ shift := by
  induction shift with
  | zero =>
    change 2 * mantissa + 0 = 2 * mantissa / 2 ^ 0
    simp
  | succ shift induction =>
    rw [Nat.pow_succ, ← Nat.div_div_eq_div_mul, ← induction]
    generalize same : ExtendedMantissa.ofMantissaAndAccuracy mantissa .exact >>> shift = extended
    have next : ExtendedMantissa.ofMantissaAndAccuracy mantissa .exact >>> (shift + 1) =
        extended.shiftRightOne := by
      rw [← same]
      rfl
    rw [next]
    change 2 * (extended.mantissa / 2) + (extended.mantissa % 2 != 0).toNat = _
    have bit := Bool.toNat_lt extended.roundBit
    rcases Nat.mod_two_eq_zero_or_one extended.mantissa with even | odd
    · simp only [even, bne_self_eq_false, Bool.toNat_false]
      omega
    · simp only [odd, bne, Nat.reduceBEq, Bool.not_false, Bool.toNat_true]
      omega

/-- Rounding goes to the next number at most, and only from half of the way on. -/
theorem roundedMantissa_le {extended : ExtendedMantissa} {bound : Nat}
    (below : 2 * extended.mantissa + extended.roundBit.toNat < 2 * bound + 1) :
    extended.roundedMantissa ≤ bound := by
  obtain ⟨mantissa, roundBit, stickyBit⟩ := extended
  cases roundBit <;> cases stickyBit <;>
    simp only [ExtendedMantissa.roundedMantissa, ExtendedMantissa.accuracy,
      Accuracy.roundToNearestEven, Bool.toNat_true, Bool.toNat_false] at below ⊢ <;> omega

/-- A mantissa rounds to at most a number if it is less than half of a step above it. -/
theorem roundedMantissa_shift_le {mantissa shift bound : Nat}
    (below : 2 * mantissa < (2 * bound + 1) * 2 ^ shift) :
    (ExtendedMantissa.ofMantissaAndAccuracy mantissa .exact >>> shift).roundedMantissa ≤ bound := by
  apply roundedMantissa_le
  rw [shift_mantissa_roundBit]
  exact (Nat.div_lt_iff_lt_mul (Nat.two_pow_pos shift)).mpr below

/-- A mantissa is at most what it rounds to if no bits are added. -/
theorem le_roundedMantissa (extended : ExtendedMantissa) :
    extended.mantissa ≤ extended.roundedMantissa := by
  obtain ⟨mantissa, roundBit, stickyBit⟩ := extended
  cases roundBit <;> cases stickyBit <;>
    simp only [ExtendedMantissa.roundedMantissa, ExtendedMantissa.accuracy,
      Accuracy.roundToNearestEven] <;> omega

/-- The mantissa that rounding to 53 bits leaves, before a carry. -/
def roundedTo53 (mantissa : Nat) : Nat :=
  (ExtendedMantissa.ofMantissaAndAccuracy mantissa .exact >>>
    (mantissa.log2 - 52)).roundedMantissa

/-- Rounding a mantissa to 53 bits gives at most the next power of two. -/
theorem roundedTo53_bounds {mantissa : Nat} (large : 2 ^ 52 ≤ mantissa) :
    2 ^ 52 ≤ roundedTo53 mantissa ∧ roundedTo53 mantissa ≤ 2 ^ 53 := by
  have nonzero : mantissa ≠ 0 := by omega
  have log : 52 ≤ mantissa.log2 := (Nat.le_log2 nonzero).mpr large
  have lower := Nat.log2_self_le nonzero
  have upper := Nat.lt_log2_self (n := mantissa)
  have split : 2 ^ mantissa.log2 = 2 ^ 52 * 2 ^ (mantissa.log2 - 52) := by
    rw [← Nat.pow_add, Nat.add_sub_cancel' log]
  rw [Nat.pow_succ] at upper
  constructor
  · have dropped := shift_mantissa_roundBit mantissa (mantissa.log2 - 52)
    have kept := le_roundedMantissa
      (ExtendedMantissa.ofMantissaAndAccuracy mantissa .exact >>> (mantissa.log2 - 52))
    have bit := Bool.toNat_lt
      (ExtendedMantissa.ofMantissaAndAccuracy mantissa .exact >>> (mantissa.log2 - 52)).roundBit
    have half : 2 * 2 ^ 52 ≤ 2 * mantissa / 2 ^ (mantissa.log2 - 52) :=
      (Nat.le_div_iff_mul_le (Nat.two_pow_pos _)).mpr (by rw [Nat.mul_assoc, ← split]; omega)
    unfold roundedTo53
    omega
  · apply roundedMantissa_shift_le
    have positive := Nat.two_pow_pos (mantissa.log2 - 52)
    rw [split] at upper
    omega

/-- The exponent that the format gives a mantissa of at least 53 bits. -/
theorem targetExponent_eq {mantissa : Nat} {exponent : Int} (large : 52 ≤ mantissa.log2)
    (bounded : -1074 ≤ exponent) :
    Format.binary64.targetExponent (totalExponent mantissa exponent) =
      exponent + (mantissa.log2 - 52 : Nat) := by
  have target : Format.binary64.targetExponent (totalExponent mantissa exponent) =
    max ((mantissa.log2 : Int) + 1 + exponent - 53) (-1074) := rfl
  rw [target]
  omega

/-- A mantissa of at least 53 bits is shifted to 53 bits. -/
theorem shiftToTargetExponent_eq {mantissa : Nat} {exponent : Int} (large : 2 ^ 52 ≤ mantissa)
    (bounded : -1074 ≤ exponent) :
    shiftToTargetExponent Format.binary64 mantissa exponent .exact =
      (ExtendedMantissa.ofMantissaAndAccuracy mantissa .exact >>> (mantissa.log2 - 52),
        exponent + (mantissa.log2 - 52 : Nat)) := by
  have log : 52 ≤ mantissa.log2 := (Nat.le_log2 (by omega)).mpr large
  have shift : (exponent + (mantissa.log2 - 52 : Nat) - exponent).toNat = mantissa.log2 - 52 := by
    omega
  simp only [shiftToTargetExponent, shiftToExponent, targetExponent_eq log bounded, shift]

/-- Rounding a mantissa of at least 53 bits leaves 53 bits, where a carry raises the exponent. -/
theorem roundWithAccuracy_eq (sign : Sign) {mantissa : Nat} {exponent : Int}
    (large : 2 ^ 52 ≤ mantissa) (bounded : -1074 ≤ exponent) :
    ∃ rounded carry : Nat, ∃ positive : 0 < rounded,
      roundWithAccuracy Format.binary64 sign mantissa exponent .exact =
        .finite sign rounded (exponent + (mantissa.log2 - 52 : Nat) + carry) positive ∧
      2 ^ 52 ≤ rounded ∧ rounded < 2 ^ 53 ∧ carry ≤ 1 ∧
      roundedTo53 mantissa = rounded * 2 ^ carry := by
  obtain ⟨lower, upper⟩ := roundedTo53_bounds large
  have first := shiftToTargetExponent_eq large bounded
  have second := @shiftToTargetExponent_eq
    _ (exponent + (mantissa.log2 - 52 : Nat)) lower (by omega)
  have folded : (ExtendedMantissa.ofMantissaAndAccuracy mantissa .exact >>>
    (mantissa.log2 - 52)).roundedMantissa = roundedTo53 mantissa := rfl
  rcases Nat.lt_or_eq_of_le upper with fits | carry
  · have log : (roundedTo53 mantissa).log2 - 52 = 0 := by
      rw [(Nat.log2_eq_iff (by omega)).mpr ⟨lower, fits⟩]
    refine ⟨roundedTo53 mantissa, 0, by omega, ?_, lower, fits, by decide, by simp⟩
    rw [log] at second
    simp only [roundWithAccuracy, first, folded, second]
    rw [dif_neg]
    · rfl
    · exact show roundedTo53 mantissa ≠ 0 by omega
  · refine ⟨2 ^ 52, 1, by decide, ?_, Nat.le_refl _, by decide, Nat.le_refl _, carry⟩
    rw [carry] at second
    simp only [roundWithAccuracy, first, folded, carry, second]
    rfl

/-- Rounding drops nothing from a number of 53 bits after a shift. -/
theorem roundedTo53_shift {mantissa : Nat} (lower : 2 ^ 52 ≤ mantissa) (upper : mantissa < 2 ^ 53)
    (shift : Nat) : (mantissa * 2 ^ shift).log2 = 52 + shift ∧
      roundedTo53 (mantissa * 2 ^ shift) = mantissa := by
  have positive := Nat.two_pow_pos shift
  have log : (mantissa * 2 ^ shift).log2 = 52 + shift := by
    refine (Nat.log2_eq_iff (Nat.mul_ne_zero (by omega) (by omega))).mpr ⟨?_, ?_⟩
    · rw [Nat.pow_add]
      exact Nat.mul_le_mul_right _ lower
    · rw [Nat.add_right_comm, Nat.pow_add]
      exact Nat.mul_lt_mul_of_pos_right upper positive
  refine ⟨log, ?_⟩
  rw [roundedTo53, log, Nat.add_sub_cancel_left]
  refine Nat.le_antisymm (roundedMantissa_shift_le ?_) ?_
  · rw [← Nat.mul_assoc]
    exact Nat.mul_lt_mul_of_pos_right (by omega) positive
  · have dropped := shift_mantissa_roundBit (mantissa * 2 ^ shift) shift
    have kept := le_roundedMantissa
      (ExtendedMantissa.ofMantissaAndAccuracy (mantissa * 2 ^ shift) .exact >>> shift)
    have bit := Bool.toNat_lt
      (ExtendedMantissa.ofMantissaAndAccuracy (mantissa * 2 ^ shift) .exact >>> shift).roundBit
    rw [← Nat.mul_assoc, Nat.mul_div_cancel _ positive] at dropped
    omega

/-- A number of 53 bits after a shift is rounded to itself. -/
theorem roundWithAccuracy_shift (sign : Sign) {mantissa : Nat} {exponent : Int}
    (lower : 2 ^ 52 ≤ mantissa) (upper : mantissa < 2 ^ 53) (shift : Nat)
    (bounded : -1074 ≤ exponent) :
    roundWithAccuracy Format.binary64 sign (mantissa * 2 ^ shift) exponent .exact =
      .finite sign mantissa (exponent + shift) (by omega) := by
  obtain ⟨log, whole⟩ := roundedTo53_shift lower upper shift
  have large : 2 ^ 52 ≤ mantissa * 2 ^ shift :=
    Nat.le_trans lower (Nat.le_mul_of_pos_right _ (Nat.two_pow_pos shift))
  obtain ⟨rounded, carry, positive, same, lowerRounded, -, few, value⟩ :=
    roundWithAccuracy_eq sign large bounded
  have noCarry : carry = 0 := by
    by_contra some
    have one : carry = 1 := by omega
    rw [whole, one] at value
    omega
  subst noCarry
  rw [whole, Nat.pow_zero, Nat.mul_one] at value
  subst value
  rw [same, log, Nat.add_sub_cancel_left]
  simp

/-- The greatest exponent is not passed by a rounded number that is less than half of a step above
the greatest double. -/
theorem isFinite_roundWithAccuracy (sign : Sign) {mantissa : Nat} {exponent : Int}
    (large : 2 ^ 52 ≤ mantissa) (bounded : -1074 ≤ exponent) (room : Nat)
    (fits : exponent + room ≤ maxExponent)
    (below : 2 * mantissa < (2 ^ 54 - 1) * 2 ^ room) :
    (Float.Model.pack
      (roundWithAccuracy Format.binary64 sign mantissa exponent .exact)).isFinite = true := by
  obtain ⟨rounded, carry, positive, same, lower, upper, small, value⟩ :=
    roundWithAccuracy_eq sign large bounded
  rw [same]
  apply isFinite_pack positive
  have log := Nat.log2_self_le (show mantissa ≠ 0 by omega)
  have log52 : 52 ≤ mantissa.log2 := (Nat.le_log2 (by omega)).mpr large
  have inside : mantissa.log2 - 52 < room + 1 := by
    have product : 2 ^ (mantissa.log2 + 1) < 2 ^ (54 + room) := by
      rw [Nat.pow_succ, Nat.pow_add]
      have less : (2 ^ 54 - 1) * 2 ^ room < 2 ^ 54 * 2 ^ room :=
        Nat.mul_lt_mul_of_pos_right (by decide) (Nat.two_pow_pos room)
      omega
    have := (Nat.pow_lt_pow_iff_right (by decide)).mp product
    omega
  by_cases last : mantissa.log2 - 52 = room
  · -- the last exponent is reached, so a carry would pass it
    have bound : roundedTo53 mantissa ≤ 2 ^ 53 - 1 := by
      apply roundedMantissa_shift_le
      rw [last]
      exact below
    have noCarry : carry = 0 := by
      rcases Nat.eq_zero_or_pos carry with none | some
      · exact none
      · rw [value, show carry = 1 by omega] at bound
        omega
    omega
  · omega

/-- Bits with a field between the first and the last one are those of a normal number. -/
theorem unpack_normal {bits : BitVec Format.binary64.numBits} {mantissa : Nat} {exponent : Int}
    (positive : 0 < mantissa)
    (field : (unpackExponent bits).toNat = (exponent + 1075).toNat)
    (fraction : (unpackMantissa bits).toNat = mantissa - 2 ^ 52)
    (lower : 2 ^ 52 ≤ mantissa) (upper : mantissa < 2 ^ 53) (least : -1074 ≤ exponent)
    (greatest : exponent ≤ maxExponent) :
    UnpackedFloat.unpack Format.binary64 bits =
      .finite (Sign.ofBitVec (unpackSign bits)) mantissa exponent positive := by
  simp only [maxExponent] at greatest
  have notLast : unpackExponent bits ≠ -1#_ := by
    intro same
    rw [same] at field
    change 2047 = _ at field
    omega
  have notFirst : unpackExponent bits ≠ 0#_ := by
    intro same
    rw [same] at field
    change 0 = _ at field
    omega
  have whole : (1#1 ++ unpackMantissa bits).toNat = mantissa := by
    rw [BitVec.toNat_append, fraction]
    change 1 <<< 52 ||| (mantissa - 2 ^ 52) = mantissa
    rw [← Nat.shiftLeft_add_eq_or_of_lt (by omega)]
    omega
  have biased : ((unpackExponent bits).toNat : Int) -
      (Format.binary64.exponentBias + Format.binary64.mantissaBitsWithoutImplicit) = exponent := by
    rw [field]
    change ((exponent + 1075).toNat : Int) - (1023 + 52) = exponent
    omega
  simp only [UnpackedFloat.unpack, if_neg notLast, if_neg notFirst, whole, biased]

/-- A normal number is unpacked as it was packed. -/
theorem unpack_pack {sign : Sign} {mantissa : Nat} {exponent : Int} (positive : 0 < mantissa)
    (lower : 2 ^ 52 ≤ mantissa) (upper : mantissa < 2 ^ 53) (least : -1074 ≤ exponent)
    (greatest : exponent ≤ maxExponent) :
    (Float.Model.pack (.finite sign mantissa exponent positive)).unpack =
      .finite sign mantissa exponent positive := by
  have field : ¬ 2 ^ Format.binary64.exponentBits ≤
      (exponent + Format.binary64.exponentBias +
        Format.binary64.mantissaBitsWithoutImplicit).toNat + 1 := by
    change ¬ 2048 ≤ (exponent + 1023 + 52).toNat + 1
    simp only [maxExponent] at greatest
    omega
  have log : mantissa.log2 + 1 = Format.binary64.mantissaBits := by
    rw [(Nat.log2_eq_iff (by omega)).mpr ⟨lower, upper⟩]
    rfl
  have packed : UnpackedFloat.pack Format.binary64 (.finite sign mantissa exponent positive) =
      packComponents Format.binary64 sign
        (BitVec.ofNat 11 (exponent + 1023 + 52).toNat) (BitVec.ofNat 52 mantissa) := by
    simp only [UnpackedFloat.pack, if_neg field, if_pos log]
    rfl
  have same := @unpack_normal (UnpackedFloat.pack Format.binary64
    (.finite sign mantissa exponent positive)) mantissa exponent positive
    (by
      rw [packed, unpackExponent_packComponents, BitVec.toNat_ofNat]
      change (exponent + 1023 + 52).toNat % 2048 = _
      simp only [maxExponent] at greatest
      omega)
    (by
      rw [packed, unpackMantissa_packComponents, BitVec.toNat_ofNat]
      change mantissa % 2 ^ 52 = _
      omega)
    lower upper least greatest
  rw [packed, unpackSign_packComponents, Sign.ofBitVec_toBitVec] at same
  exact (congrArg _ packed).trans same

/-! ### Normal numbers up to a bound -/

/-- A number is normal, its exponent is not below a bound, and its magnitude, counted in steps of
the least double, is not above another one. -/
def IsNormal (low : Int) (high : Nat) (number : UnpackedFloat) : Prop :=
  ∃ sign mantissa exponent positive, number = .finite sign mantissa exponent positive ∧
    2 ^ 52 ≤ mantissa ∧ mantissa < 2 ^ 53 ∧ low ≤ exponent ∧
    mantissa * 2 ^ (exponent + 1074).toNat ≤ high

/-- A number of 53 bits is not above one with a greater shift. -/
theorem mul_two_pow_le {first second shift more : Nat} (upper : first ≤ 2 ^ 53)
    (lower : 2 ^ 52 ≤ second) (less : shift < more) : first * 2 ^ shift ≤ second * 2 ^ more :=
  calc first * 2 ^ shift
      ≤ 2 ^ 53 * 2 ^ shift := Nat.mul_le_mul_right _ upper
    _ = 2 ^ 52 * 2 ^ (shift + 1) := by rw [Nat.pow_succ]; omega
    _ ≤ 2 ^ 52 * 2 ^ more := Nat.mul_le_mul_left _ (Nat.pow_le_pow_right (by decide) less)
    _ ≤ second * 2 ^ more := Nat.mul_le_mul_right _ lower

/-- Rounding to 53 bits does not pass a number of 53 bits that is nearer than half of a step. -/
theorem roundedTo53_mul_le {mantissa bound shift : Nat} (large : 2 ^ 52 ≤ mantissa)
    (lower : 2 ^ 52 ≤ bound) (upper : bound < 2 ^ 53)
    (below : 2 * mantissa < (2 * bound + 1) * 2 ^ shift) :
    roundedTo53 mantissa * 2 ^ (mantissa.log2 - 52) ≤ bound * 2 ^ shift := by
  have log := Nat.log2_self_le (show mantissa ≠ 0 by omega)
  have log52 : 52 ≤ mantissa.log2 := (Nat.le_log2 (by omega)).mpr large
  rcases Nat.lt_trichotomy (mantissa.log2 - 52) shift with less | same | more
  · exact mul_two_pow_le (roundedTo53_bounds large).2 lower less
  · rw [same]
    exact Nat.mul_le_mul_right _ (roundedMantissa_shift_le (same ▸ below))
  · -- the mantissa would be too great
    have power : 2 ^ (53 + shift) ≤ mantissa :=
      Nat.le_trans (Nat.pow_le_pow_right (by decide) (by omega)) log
    have least : (2 * bound + 1) * 2 ^ shift ≤ 2 * 2 ^ (53 + shift) := by
      rw [Nat.pow_add, ← Nat.mul_assoc]
      exact Nat.mul_le_mul_right _ (by omega)
    omega

/-- Rounding gives a normal number. -/
theorem isNormal_roundWithAccuracy (sign : Sign) {mantissa bound shift : Nat} {exponent : Int}
    (large : 2 ^ 52 ≤ mantissa) (least : -1074 ≤ exponent)
    (lower : 2 ^ 52 ≤ bound) (upper : bound < 2 ^ 53)
    (below : 2 * mantissa < (2 * bound + 1) * 2 ^ shift) :
    IsNormal exponent (bound * 2 ^ (shift + (exponent + 1074).toNat))
      (roundWithAccuracy Format.binary64 sign mantissa exponent .exact) := by
  obtain ⟨rounded, carry, positive, same, lowerRounded, upperRounded, -, value⟩ :=
    roundWithAccuracy_eq sign large least
  refine ⟨sign, rounded, _, positive, same, lowerRounded, upperRounded, by omega, ?_⟩
  have exponents : (exponent + (mantissa.log2 - 52 : Nat) + carry + 1074).toNat =
      carry + (mantissa.log2 - 52) + (exponent + 1074).toNat := by omega
  rw [exponents, Nat.pow_add, Nat.pow_add, ← Nat.mul_assoc, ← Nat.mul_assoc, ← value, Nat.pow_add,
    ← Nat.mul_assoc]
  exact Nat.mul_le_mul_right _ (roundedTo53_mul_le large lower upper below)

/-- A normal number keeps to weaker bounds. -/
theorem IsNormal.weaken {low other : Int} {high greater : Nat} {number : UnpackedFloat}
    (normal : IsNormal low high number) (below : other ≤ low) (above : high ≤ greater) :
    IsNormal other greater number := by
  obtain ⟨sign, mantissa, exponent, positive, same, lower, upper, least, value⟩ := normal
  exact ⟨sign, mantissa, exponent, positive, same, lower, upper, by omega, by omega⟩

/-- A normal number that is not too great stays the same when it is packed. -/
theorem IsNormal.pack {low : Int} {high : Nat} {number : UnpackedFloat}
    (normal : IsNormal low high number) (least : -1074 ≤ low) {bits : Nat}
    (greatest : high < 2 ^ bits) (few : bits ≤ 2098) :
    IsNormal low high (Float.Model.pack number).unpack := by
  obtain ⟨sign, mantissa, exponent, positive, rfl, lower, upper, above, value⟩ := normal
  have bounded : exponent ≤ maxExponent := by
    have power : 2 ^ (52 + (exponent + 1074).toNat) < 2 ^ bits := by
      rw [Nat.pow_add]
      exact Nat.lt_of_le_of_lt (Nat.le_trans (Nat.mul_le_mul_right _ lower) value) greatest
    have := (Nat.pow_lt_pow_iff_right (by decide)).mp power
    simp only [maxExponent]
    omega
  exact ⟨sign, mantissa, exponent, positive, unpack_pack positive lower upper (by omega) bounded,
    lower, upper, above, value⟩

/-! ### Natural numbers and products -/

/-- A number of 53 bits after a shift. -/
theorem mul_two_pow_lt {n : Nat} (small : n < 2 ^ 53) (shift : Nat) :
    n * 2 ^ shift < 2 ^ (53 + shift) := by
  rw [Nat.pow_add]
  exact Nat.mul_lt_mul_of_pos_right small (Nat.two_pow_pos shift)

/-- A positive natural number of at most 53 bits after the shift that gives it 53 bits. -/
theorem shift_to53 {n : Nat} (positive : 0 < n) (small : n < 2 ^ 53) :
    n.log2 ≤ 52 ∧ 2 ^ 52 ≤ n * 2 ^ (52 - n.log2) ∧ n * 2 ^ (52 - n.log2) < 2 ^ 53 := by
  have nonzero : n ≠ 0 := by omega
  have log52 : n.log2 ≤ 52 := Nat.lt_succ_iff.mp ((Nat.log2_lt nonzero).mpr small)
  have shifted : 2 ^ n.log2 * 2 ^ (52 - n.log2) = 2 ^ 52 := by
    rw [← Nat.pow_add, Nat.add_sub_cancel' log52]
  refine ⟨log52, ?_, ?_⟩
  · rw [← shifted]
    exact Nat.mul_le_mul_right _ (Nat.log2_self_le nonzero)
  · have less := Nat.mul_lt_mul_of_pos_right (Nat.lt_log2_self (n := n))
      (Nat.two_pow_pos (52 - n.log2))
    rw [Nat.pow_succ, Nat.mul_right_comm, shifted] at less
    exact less

/-- A positive natural number of at most 53 bits is converted to itself. -/
theorem unpack_toFloat {n : Nat} (positive : 0 < n) (small : n < 2 ^ 53) :
    n.toUInt64.toFloat.toModel.unpack =
      .finite .positive (n * 2 ^ (52 - n.log2)) ((n.log2 : Int) - 52)
        (Nat.mul_pos positive (Nat.two_pow_pos _)) := by
  obtain ⟨log52, lower, upper⟩ := shift_to53 positive small
  have target : Format.binary64.targetExponent (totalExponent n 0) = (n.log2 : Int) - 52 := by
    change max ((n.log2 : Int) + 1 + 0 - 53) (-1074) = _
    omega
  have word : n.toUInt64.toNat = n := by
    rw [Nat.toUInt64, UInt64.toNat_ofNat']
    omega
  have rounded : UnpackedFloat.round Format.binary64 .positive n 0 =
      roundWithAccuracy Format.binary64 .positive (n * 2 ^ (52 - n.log2) * 2 ^ 0)
        ((n.log2 : Int) - 52) .exact := by
    have up : (0 - ((n.log2 : Int) - 52)).toNat = 52 - n.log2 := by omega
    have down : (0 : Int) - (52 - n.log2 : Nat) = (n.log2 : Int) - 52 := by omega
    simp only [UnpackedFloat.round, target, decreaseExponent, Nat.shiftLeft_eq, up, down,
      Nat.pow_zero, Nat.mul_one]
  have unfolded : n.toUInt64.toFloat.toModel.unpack =
      (Float.Model.pack (UnpackedFloat.round Format.binary64 .positive n 0)).unpack := by
    have greater : compare (n : Int) 0 = .gt := by
      rw [Int.compare_eq_gt]
      omega
    change (Float.Model.pack
      (UnpackedFloat.normalize Format.binary64 (n.toUInt64.toNat : Int) 0 .positive)).unpack = _
    rw [word]
    simp only [UnpackedFloat.normalize, greater, Int.toNat_natCast]
  rw [unfolded, rounded, roundWithAccuracy_shift _ lower upper 0 (by omega),
    unpack_pack _ lower upper (by omega) (by simp only [maxExponent]; omega)]
  simp

/-- The double one. -/
theorem unpack_one : (Float.ofBits 0x3FF0000000000000).toModel.unpack =
    .finite .positive (2 ^ 52) (-52) (by decide) := rfl

/-- A positive natural number of at most 53 bits becomes a double without a loss, by way of a product
with one. -/
theorem unpack_ofNat_small {n : Nat} (positive : 0 < n) (small : n < 2 ^ 53) :
    (Float.ofNat n).toModel.unpack =
      .finite .positive (n * 2 ^ (52 - n.log2)) ((n.log2 : Int) - 52)
        (Nat.mul_pos positive (Nat.two_pow_pos _)) := by
  obtain ⟨log52, lower, upper⟩ := shift_to53 positive small
  have unfolded : (Float.ofNat n).toModel =
      Float.Model.pack (UnpackedFloat.mul Format.binary64 n.toUInt64.toFloat.toModel.unpack
        (Float.ofBits 0x3FF0000000000000).toModel.unpack) := by
    unfold Float.ofNat OfScientific.ofScientific instOfScientificFloat Float.ofScientific
    simp only
    rw [dif_pos ⟨small, by decide⟩]
    rfl
  have product : UnpackedFloat.mul Format.binary64 n.toUInt64.toFloat.toModel.unpack
      (Float.ofBits 0x3FF0000000000000).toModel.unpack =
        roundWithAccuracy Format.binary64 .positive (n * 2 ^ (52 - n.log2) * 2 ^ 52)
          ((n.log2 : Int) - 52 + -52) .exact := by
    rw [unpack_toFloat positive small, unpack_one]
    rfl
  rw [unfolded, product, roundWithAccuracy_shift _ lower upper 52 (by omega),
    unpack_pack _ lower upper (by omega) (by simp only [maxExponent]; omega)]
  simp

/-- A natural number of at most 53 bits becomes a normal double that is not above it. -/
theorem isNormal_ofNat_small {n : Nat} (positive : 0 < n) (small : n < 2 ^ 53) :
    IsNormal (-104) (n * 2 ^ 1074) (Float.ofNat n).toModel.unpack := by
  obtain ⟨log52, lower, upper⟩ := shift_to53 positive small
  refine ⟨_, _, _, _, unpack_ofNat_small positive small, lower, upper, by omega, Nat.le_of_eq ?_⟩
  rw [Nat.mul_assoc, ← Nat.pow_add]
  congr 2
  omega

/-- A natural number of more than 53 bits is rounded as a double. -/
theorem toModel_ofNat_large {n : Nat} (large : 2 ^ 53 ≤ n) :
    (Float.ofNat n).toModel = Float.Model.pack
      (roundWithAccuracy Format.binary64 .positive (n * 2 ^ 53) (-53) .exact) := by
  unfold Float.ofNat OfScientific.ofScientific instOfScientificFloat Float.ofScientific
  simp only
  rw [dif_neg (by omega)]
  change Float.Model.pack (UnpackedFloat.ofScientific Format.binary64 n 0) = _
  have nonzero : n ≠ 0 := by omega
  unfold UnpackedFloat.ofScientific
  rw [dif_neg nonzero, if_neg (by decide), if_neg, if_pos (by decide)]
  · change Float.Model.pack (roundWithAccuracy Format.binary64 .positive
      (n <<< 53 * 1) (-53) .exact) = _
    rw [Nat.mul_one, Nat.shiftLeft_eq]
  · change ¬ 0 < -((2048 : Int) + n.log2)
    omega

/-- A natural number of more than 53 bits becomes a double that does not pass a number of 53 bits
that is nearer than half of a step. -/
theorem isNormal_ofNat_large {n bound shift : Nat} (large : 2 ^ 53 ≤ n)
    (lower : 2 ^ 52 ≤ bound) (upper : bound < 2 ^ 53) (short : shift ≤ 64)
    (below : 2 * n < (2 * bound + 1) * 2 ^ shift) :
    IsNormal (-104) (bound * 2 ^ (shift + 1074)) (Float.ofNat n).toModel.unpack := by
  have normal := @isNormal_roundWithAccuracy .positive (n * 2 ^ 53) bound
    (shift + 53) (-53) (by omega) (by decide) lower upper (by
      rw [Nat.pow_add, ← Nat.mul_assoc, ← Nat.mul_assoc]
      exact Nat.mul_lt_mul_of_pos_right below (by decide))
  have exponents : shift + 53 + ((-53 : Int) + 1074).toNat = shift + 1074 := by omega
  have few : 53 + (shift + 1074) ≤ 2098 :=
    Nat.le_trans (Nat.add_le_add_left (Nat.add_le_add_right short 1074) 53) (by decide)
  rw [exponents] at normal
  rw [toModel_ofNat_large large]
  exact IsNormal.pack (normal.weaken (by decide) (Nat.le_refl _)) (by decide)
    (mul_two_pow_lt upper (shift + 1074)) few

/-- A natural number below 2^64 becomes a double that does not pass a number of 53 bits that is
nearer than half of a step. -/
theorem isNormal_ofNat {n bound shift : Nat} (positive : 0 < n)
    (normal : shift = 0 ∨ 2 ^ 52 ≤ bound) (upper : bound < 2 ^ 53) (short : shift ≤ 64)
    (below : 2 * n < (2 * bound + 1) * 2 ^ shift) :
    IsNormal (-104) (bound * 2 ^ (shift + 1074)) (Float.ofNat n).toModel.unpack := by
  have exact (fits : shift = 0) : n ≤ bound := by
    rw [fits, Nat.pow_zero] at below
    omega
  rcases Nat.lt_or_ge n (2 ^ 53) with small | large
  · refine (isNormal_ofNat_small positive small).weaken (Int.le_refl _) ?_
    rw [Nat.pow_add, ← Nat.mul_assoc]
    apply Nat.mul_le_mul_right
    rcases Nat.eq_zero_or_pos shift with fits | shifted
    · rw [fits, Nat.pow_zero, Nat.mul_one]
      exact exact fits
    · have two : 2 ^ 1 ≤ 2 ^ shift := Nat.pow_le_pow_right (by decide) shifted
      have lower : 2 ^ 52 ≤ bound := normal.resolve_left (by omega)
      exact Nat.le_trans (by omega) (Nat.mul_le_mul lower two)
  · have lower : 2 ^ 52 ≤ bound := normal.resolve_left fun fits => by
      have := exact fits
      omega
    exact isNormal_ofNat_large large lower upper short below

/-- The exponent of the greatest double, where a product is counted in products of the least
double with itself. -/
def productExponent : Nat := 971 + 1074 + 1074

/-- The product of two normal doubles is finite if it is less than half of a step above the
greatest double. -/
theorem isFinite_mul {low other : Int} {high greater : Nat} {x y : Float}
    (left : IsNormal low high x.toModel.unpack) (right : IsNormal other greater y.toModel.unpack)
    (leftLeast : -1074 ≤ low) (rightLeast : -1074 ≤ other) (bothLeast : -1074 ≤ low + other)
    (below : 2 * (high * greater) < (2 ^ 54 - 1) * 2 ^ productExponent) :
    (x * y).isFinite = true := by
  have steps : productExponent = 971 + 1074 + 1074 := rfl
  generalize productExponent = total at steps below
  obtain ⟨_, first, power, _, leftSame, firstLower, -, above, leftValue⟩ := left
  obtain ⟨_, second, otherPower, _, rightSame, secondLower, -, otherAbove, rightValue⟩ := right
  have unfolded : (x * y).toModel = Float.Model.pack
      (UnpackedFloat.mul Format.binary64 x.toModel.unpack y.toModel.unpack) := rfl
  have inSteps : 2 * (first * second) * 2 ^ ((power + 1074).toNat + (otherPower + 1074).toNat) <
      (2 ^ 54 - 1) * 2 ^ total := by
    have product := Nat.mul_le_mul leftValue rightValue
    rw [Nat.pow_add, Nat.mul_assoc, Nat.mul_mul_mul_comm]
    exact Nat.lt_of_le_of_lt (Nat.mul_le_mul_left 2 product) below
  have large : 2 ^ 52 * 2 ^ 52 ≤ first * second := Nat.mul_le_mul firstLower secondLower
  have room : power + otherPower ≤ maxExponent := by
    have powers : 2 ^ (105 + ((power + 1074).toNat + (otherPower + 1074).toNat)) <
        2 ^ (54 + total) := by
      rw [Nat.pow_add, Nat.pow_add 2 54]
      calc _ ≤ 2 * (first * second) *
            2 ^ ((power + 1074).toNat + (otherPower + 1074).toNat) :=
            Nat.mul_le_mul_right _ (by omega)
        _ < _ := inSteps
        _ ≤ _ := Nat.mul_le_mul_right _ (by decide)
    have := (Nat.pow_lt_pow_iff_right (by decide)).mp powers
    simp only [maxExponent]
    omega
  unfold Float.isFinite
  rw [unfolded, leftSame, rightSame]
  refine isFinite_roundWithAccuracy _ (by omega) (by omega)
    (maxExponent - (power + otherPower)).toNat (by omega) ?_
  have split : total = (maxExponent - (power + otherPower)).toNat +
      ((power + 1074).toNat + (otherPower + 1074).toNat) := by
    simp only [maxExponent] at room ⊢
    omega
  rw [split, Nat.pow_add 2 (maxExponent - _).toNat, ← Nat.mul_assoc (2 ^ 54 - 1)] at inSteps
  exact Nat.lt_of_mul_lt_mul_right inSteps

end Dust.Number
