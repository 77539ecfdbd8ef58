import Dust.Proofs.Number.Rounding

/-!
# Whole numbers as doubles

Every integer of 64 bits becomes the double that is nearest to it. Up to 53 bits nothing is lost.
Beyond them neighbours may become the same double, but no two integers change their order, since
rounding keeps the order of what it rounds. The doubles of integers are counted in steps of 2^-53,
of which they are multiples, and are compared as these integers.
-/

open Float.Model UnpackedFloat

namespace Dust.Number

/-! ### Rounding keeps the order -/

/-- A mantissa and the two bits behind it as one number. -/
def rank (extended : ExtendedMantissa) : Nat :=
  4 * extended.mantissa + 2 * extended.roundBit.toNat + extended.stickyBit.toNat

/-- The rank after one more bit is dropped. -/
theorem rank_shiftRightOne (extended : ExtendedMantissa) :
    rank extended.shiftRightOne =
      2 * extended.mantissa + (extended.roundBit || extended.stickyBit).toNat := by
  have parts : rank extended.shiftRightOne = 4 * (extended.mantissa / 2) +
      2 * (extended.mantissa % 2 != 0).toNat +
      (extended.roundBit || extended.stickyBit).toNat := rfl
  rw [parts]
  rcases Nat.mod_two_eq_zero_or_one extended.mantissa with even | odd
  · simp only [even, bne_self_eq_false, Bool.toNat_false]
    omega
  · simp only [odd, bne, Nat.reduceBEq, Bool.not_false, Bool.toNat_true]
    omega

section Ranked

variable {small great : ExtendedMantissa}

/-- Dropping one more bit keeps the order. -/
theorem rank_shiftRightOne_le (ordered : rank small ≤ rank great) :
    rank small.shiftRightOne ≤ rank great.shiftRightOne := by
  rw [rank_shiftRightOne, rank_shiftRightOne]
  obtain ⟨first, round, sticky⟩ := small
  obtain ⟨second, round', sticky'⟩ := great
  cases round <;> cases sticky <;> cases round' <;> cases sticky' <;>
    simp only [rank, Bool.toNat_false, Bool.toNat_true, Bool.or_false, Bool.or_true] at ordered ⊢ <;>
    omega

/-- Dropping bits keeps the order. -/
theorem rank_shift_le (ordered : rank small ≤ rank great) (shift : Nat) :
    rank (small >>> shift) ≤ rank (great >>> shift) := by
  induction shift with
  | zero => exact ordered
  | succ shift induction => exact rank_shiftRightOne_le induction

/-- Rounding keeps the order. -/
theorem roundedMantissa_le_of_rank (ordered : rank small ≤ rank great) :
    small.roundedMantissa ≤ great.roundedMantissa := by
  obtain ⟨first, round, sticky⟩ := small
  obtain ⟨second, round', sticky'⟩ := great
  cases round <;> cases sticky <;> cases round' <;> cases sticky' <;>
    simp only [rank, Bool.toNat_false, Bool.toNat_true, ExtendedMantissa.roundedMantissa,
      ExtendedMantissa.accuracy, Accuracy.roundToNearestEven] at ordered ⊢ <;>
    omega

end Ranked

/-- A mantissa of at least 53 bits after it is rounded, with zeros for the bits that are dropped. -/
def roundedWhole (mantissa : Nat) : Nat :=
  roundedTo53 mantissa * 2 ^ (mantissa.log2 - 52)

/-- Rounding to 53 bits keeps the order. -/
theorem roundedWhole_le {small great : Nat} (large : 2 ^ 52 ≤ small) (ordered : small ≤ great) :
    roundedWhole small ≤ roundedWhole great := by
  have nonzero : small ≠ 0 := by omega
  have log52 : 52 ≤ small.log2 := (Nat.le_log2 nonzero).mpr large
  have logs : small.log2 ≤ great.log2 :=
    (Nat.le_log2 (by omega)).mpr (Nat.le_trans (Nat.log2_self_le nonzero) ordered)
  rcases Nat.lt_or_eq_of_le logs with less | same
  · exact mul_two_pow_le (roundedTo53_bounds large).2
      (roundedTo53_bounds (Nat.le_trans large ordered)).1 (by omega)
  · have ranks : rank (ExtendedMantissa.ofMantissaAndAccuracy small .exact) ≤
        rank (ExtendedMantissa.ofMantissaAndAccuracy great .exact) := by
      change 4 * small ≤ 4 * great
      omega
    rw [roundedWhole, roundedWhole, roundedTo53, roundedTo53, same]
    exact Nat.mul_le_mul_right _ (roundedMantissa_le_of_rank (rank_shift_le ranks _))

/-- A number of 53 bits after a shift is rounded to itself. -/
theorem roundedWhole_shift {mantissa : Nat} (lower : 2 ^ 52 ≤ mantissa) (upper : mantissa < 2 ^ 53)
    (shift : Nat) : roundedWhole (mantissa * 2 ^ shift) = mantissa * 2 ^ shift := by
  obtain ⟨log, whole⟩ := roundedTo53_shift lower upper shift
  rw [roundedWhole, whole, log, Nat.add_sub_cancel_left]

/-! ### Numbers in steps -/

/-- A number is zero or normal, and it stands for an integer, counted in steps of 2^-53. -/
inductive Stands : Int → UnpackedFloat → Prop where
  /-- Both zeros stand for zero. -/
  | zero (sign : Sign) : Stands 0 (.zero sign)
  /-- A normal number stands for a multiple of the step that its exponent gives. -/
  | finite (sign : Sign) {mantissa : Nat} {exponent : Int} (positive : 0 < mantissa)
      (lower : 2 ^ 52 ≤ mantissa) (upper : mantissa < 2 ^ 53) (least : -53 ≤ exponent)
      (greatest : exponent ≤ maxExponent) :
      Stands (sign.apply (mantissa * 2 ^ (exponent + 53).toNat : Nat))
        (.finite sign mantissa exponent positive)

/-- A magnitude with a lesser exponent is less. -/
theorem magnitude_lt {first second : Nat} {power otherPower : Int} (upper : first < 2 ^ 53)
    (lower : 2 ^ 52 ≤ second) (least : -53 ≤ power) (less : power < otherPower) :
    first * 2 ^ (power + 53).toNat < second * 2 ^ (otherPower + 53).toNat :=
  calc first * 2 ^ (power + 53).toNat
      < (first + 1) * 2 ^ (power + 53).toNat :=
        Nat.mul_lt_mul_of_pos_right (Nat.lt_succ_self first) (Nat.two_pow_pos _)
    _ ≤ second * 2 ^ (otherPower + 53).toNat := mul_two_pow_le upper lower (by omega)

/-- Normal numbers are ordered by their exponents first. -/
theorem compare_normal {first second : Nat} {power otherPower : Int} (lower : 2 ^ 52 ≤ first)
    (upper : first < 2 ^ 53) (least : -53 ≤ power) (otherLower : 2 ^ 52 ≤ second)
    (otherUpper : second < 2 ^ 53) (otherLeast : -53 ≤ otherPower) :
    (compare power otherPower).then (compare first second) =
      compare (first * 2 ^ (power + 53).toNat : Nat)
        (second * 2 ^ (otherPower + 53).toNat : Nat) := by
  rcases Int.lt_trichotomy power otherPower with less | same | more
  · rw [Int.compare_eq_lt.mpr less,
      Nat.compare_eq_lt.mpr (magnitude_lt upper otherLower least less)]
    rfl
  · subst same
    have positive := Nat.two_pow_pos (power + 53).toNat
    rw [Int.compare_eq_eq.mpr rfl, Ordering.eq_then]
    rcases Nat.lt_trichotomy first second with less | same | more
    · rw [Nat.compare_eq_lt.mpr less,
        Nat.compare_eq_lt.mpr (Nat.mul_lt_mul_of_pos_right less positive)]
    · rw [same]
      simp
    · rw [Nat.compare_eq_gt.mpr more,
        Nat.compare_eq_gt.mpr (Nat.mul_lt_mul_of_pos_right more positive)]
  · rw [Int.compare_eq_gt.mpr more,
      Nat.compare_eq_gt.mpr (magnitude_lt otherUpper lower otherLeast more)]
    rfl

/-- Integers with their signs changed are in the opposite order. -/
theorem compare_neg (a b : Int) : compare (-a) (-b) = (compare a b).swap := by
  rcases Int.lt_trichotomy a b with less | same | more
  · rw [Int.compare_eq_lt.mpr less, Int.compare_eq_gt.mpr (by omega)]
    rfl
  · rw [same]
    simp
  · rw [Int.compare_eq_gt.mpr more, Int.compare_eq_lt.mpr (by omega)]
    rfl

/-- Natural numbers have the same order as integers. -/
theorem compare_natCast (m n : Nat) : compare (m : Int) (n : Int) = compare m n := by
  rcases Nat.lt_trichotomy m n with less | same | more
  · rw [Nat.compare_eq_lt.mpr less, Int.compare_eq_lt.mpr (by omega)]
  · rw [same]
    simp
  · rw [Nat.compare_eq_gt.mpr more, Int.compare_eq_gt.mpr (by omega)]

/-- Numbers are compared as the integers they stand for. -/
theorem Stands.compare {a b : Int} {x y : UnpackedFloat} (first : Stands a x)
    (second : Stands b y) : x.compare y = some (Ord.compare a b) := by
  have magnitude {mantissa : Nat} (exponent : Int) (positive : 0 < mantissa) :
      0 < mantissa * 2 ^ (exponent + 53).toNat :=
    Nat.mul_pos positive (Nat.two_pow_pos _)
  cases first with
  | zero sign =>
    cases second with
    | zero => rfl
    | @finite other _ exponent positive =>
      have above := magnitude exponent positive
      cases other with
      | positive =>
        rw [Int.compare_eq_lt.mpr (by simp only [Sign.apply]; omega)]
        rfl
      | negative =>
        rw [Int.compare_eq_gt.mpr (by simp only [Sign.apply]; omega)]
        rfl
  | @finite sign _ power positive lower upper least =>
    have above := magnitude power positive
    cases second with
    | zero =>
      cases sign with
      | positive =>
        rw [Int.compare_eq_gt.mpr (by simp only [Sign.apply]; omega)]
        rfl
      | negative =>
        rw [Int.compare_eq_lt.mpr (by simp only [Sign.apply]; omega)]
        rfl
    | @finite other _ exponent positive otherLower otherUpper otherLeast =>
      have alsoAbove := magnitude exponent positive
      have normal := compare_normal lower upper least otherLower otherUpper otherLeast
      cases sign with
      | positive =>
        cases other with
        | positive => simp only [UnpackedFloat.compare, normal, Sign.apply, compare_natCast]
        | negative =>
          rw [Int.compare_eq_gt.mpr (by simp only [Sign.apply]; omega)]
          rfl
      | negative =>
        cases other with
        | positive =>
          rw [Int.compare_eq_lt.mpr (by simp only [Sign.apply]; omega)]
          rfl
        | negative =>
          simp only [UnpackedFloat.compare, normal, Sign.apply, compare_neg, compare_natCast]

/-- A number stands for the same integer after it is packed. -/
theorem Stands.pack {a : Int} {x : UnpackedFloat} (stands : Stands a x) :
    Stands a (Float.Model.pack x).unpack := by
  cases stands with
  | zero sign =>
    have same : (Float.Model.pack (.zero sign)).unpack = .zero sign := by
      cases sign <;> rfl
    rw [same]
    exact .zero sign
  | finite sign positive lower upper least greatest =>
    rw [unpack_pack positive lower upper (by omega) greatest]
    exact .finite sign positive lower upper least greatest

/-- A number with the other sign stands for the integer with the other sign. -/
theorem Stands.neg {a : Int} {x : UnpackedFloat} (stands : Stands a x) : Stands (-a) x.neg := by
  cases stands with
  | zero sign => exact .zero (-sign)
  | @finite sign mantissa exponent positive lower upper least greatest =>
    have value : -sign.apply (mantissa * 2 ^ (exponent + 53).toNat : Nat) =
        (-sign).apply (mantissa * 2 ^ (exponent + 53).toNat : Nat) := by
      cases sign with
      | positive => rfl
      | negative => exact Int.neg_neg _
    rw [value]
    exact .finite (-sign) positive lower upper least greatest

/-! ### Integers in steps -/

/-- The steps of the double that is nearest to a natural number. -/
def natSteps (n : Nat) : Nat :=
  roundedWhole (n * 2 ^ 53)

/-- The steps of the double that is nearest to an integer. -/
def intSteps : Int → Int
  | .ofNat n => natSteps n
  | .negSucc n => -natSteps (n + 1)

/-- Natural numbers up to 2^53 are not rounded. -/
theorem natSteps_of_small {n : Nat} (small : n ≤ 2 ^ 53) : natSteps n = n * 2 ^ 53 := by
  rcases Nat.eq_zero_or_pos n with rfl | positive
  · rfl
  rcases Nat.lt_or_eq_of_le small with less | rfl
  · obtain ⟨log52, lower, upper⟩ := shift_to53 positive less
    have shifted : n * 2 ^ 53 = n * 2 ^ (52 - n.log2) * 2 ^ (n.log2 + 1) := by
      rw [Nat.mul_assoc, ← Nat.pow_add]
      congr 2
      omega
    rw [natSteps, shifted, roundedWhole_shift lower upper]
  · exact roundedWhole_shift (Nat.le_refl _) (by decide) 54

/-- Natural numbers keep their order. -/
theorem natSteps_le {m n : Nat} (ordered : m ≤ n) : natSteps m ≤ natSteps n := by
  rcases Nat.eq_zero_or_pos m with rfl | positive
  · exact Nat.zero_le _
  · exact roundedWhole_le (by omega) (Nat.mul_le_mul_right _ ordered)

/-- Integers keep their order. -/
theorem intSteps_le {a b : Int} (ordered : a ≤ b) : intSteps a ≤ intSteps b := by
  cases a with
  | ofNat m =>
    cases b with
    | ofNat n => exact Int.ofNat_le.mpr (natSteps_le (Int.ofNat_le.mp ordered))
    | negSucc n =>
      rw [Int.ofNat_eq_natCast] at ordered
      omega
  | negSucc m =>
    cases b with
    | ofNat n =>
      simp only [intSteps]
      omega
    | negSucc n =>
      have steps : natSteps (n + 1) ≤ natSteps (m + 1) := natSteps_le (by omega)
      simp only [intSteps]
      omega

/-- Integers up to 2^53 are not rounded. -/
theorem intSteps_of_small {a : Int} (small : a.natAbs ≤ 2 ^ 53) : intSteps a = a * 2 ^ 53 := by
  cases a with
  | ofNat n =>
    have whole : natSteps n = n * 2 ^ 53 := natSteps_of_small small
    simp only [intSteps, Int.ofNat_eq_natCast]
    omega
  | negSucc n =>
    have whole : natSteps (n + 1) = (n + 1) * 2 ^ 53 := natSteps_of_small small
    simp only [intSteps]
    omega

/-- A natural number of 64 bits becomes the double of its steps. -/
theorem stands_ofNat {n : Nat} (bounded : n < 2 ^ 64) :
    Stands (natSteps n) (Float.ofNat n).toModel.unpack := by
  rcases Nat.eq_zero_or_pos n with rfl | positive
  · exact .zero .positive
  rcases Nat.lt_or_ge n (2 ^ 53) with small | large
  · obtain ⟨log52, lower, upper⟩ := shift_to53 positive small
    have steps : natSteps n =
        n * 2 ^ (52 - n.log2) * 2 ^ ((n.log2 : Int) - 52 + 53).toNat := by
      rw [natSteps_of_small (Nat.le_of_lt small), Nat.mul_assoc, ← Nat.pow_add]
      congr 2
      omega
    rw [unpack_ofNat_small positive small, steps]
    exact .finite .positive _ lower upper (by omega) (by simp only [maxExponent]; omega)
  · obtain ⟨rounded, carry, positive, same, lower, upper, few, value⟩ :=
      @roundWithAccuracy_eq .positive (n * 2 ^ 53) (-53) (by omega) (by decide)
    have log : (n * 2 ^ 53).log2 < 117 := (Nat.log2_lt (by omega)).mpr (by omega)
    have exponent : ((-53 : Int) + ((n * 2 ^ 53).log2 - 52 : Nat) + carry + 53).toNat =
        carry + ((n * 2 ^ 53).log2 - 52) := by omega
    have steps : natSteps n = rounded *
        2 ^ ((-53 : Int) + ((n * 2 ^ 53).log2 - 52 : Nat) + carry + 53).toNat := by
      rw [natSteps, roundedWhole, value, exponent, Nat.pow_add, Nat.mul_assoc]
    rw [toModel_ofNat_large large, same, steps]
    exact Stands.pack
      (.finite .positive positive lower upper (by omega) (by simp only [maxExponent]; omega))

/-- An integer of 64 bits becomes the double of its steps. -/
theorem stands_ofInt {a : Int} (bounded : a.natAbs < 2 ^ 64) :
    Stands (intSteps a) (Float.ofInt a).toModel.unpack := by
  cases a with
  | ofNat n => exact stands_ofNat bounded
  | negSucc n => exact (stands_ofNat bounded).neg.pack

end Dust.Number
