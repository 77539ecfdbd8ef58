import Dust.Proofs.Number.Moderate
import Dust.Proofs.Value.Comparison
import Dust.Value.Arithmetic

/-!
# Arithmetic of integers

An operation on two integers has the exact result, as an integer, whenever this is an integer of 64
bits. Otherwise the result is a double, which is always finite, and there is none exactly where
something is divided by zero. The integers may be given as texts. Dividing the least integer by
minus one is an exception: the quotient stops the program, and the remainder is taken for undefined.
-/

namespace Dust

/-- An integer of 64 bits is found for a whole number if it is this number. -/
theorem Number.int64?_eq_some_iff {whole : Int} {n : Int64} :
    int64? whole = some n ↔ n.toInt = whole := by
  constructor
  · intro found
    unfold int64? at found
    split at found
    · rename_i range
      cases found
      exact Int64.toInt_ofInt_of_le range.1 (Int.lt_add_one_of_le range.2)
    · cases found
  · rintro rfl
    exact int64?_toInt n

/-- The remainder of a 64-bit integer by another one is a 64-bit integer. -/
theorem Number.exists_int64_tmod (a b : Int64) (nonzero : b.toInt ≠ 0) :
    ∃ n, int64? (a.toInt.tmod b.toInt) = some n := by
  have magnitude := Int.natAbs_tmod a.toInt b.toInt
  have smaller := Nat.mod_lt a.toInt.natAbs (show b.toInt.natAbs > 0 by omega)
  have least := b.le_toInt
  have greatest := b.toInt_lt
  unfold int64?
  rw [if_pos (by unfold leastInteger greatestInteger; omega)]
  exact ⟨_, rfl⟩

/-- The double of an integer other than zero is not equal to zero. -/
theorem ofInt_beq_zero {n : Int64} (nonzero : n.toInt ≠ 0) :
    (Float.ofInt n.toInt == 0.0) = false := by
  have zero : Number.Stands 0 (0.0 : Float).toModel.unpack := .zero .positive
  rw [beq_of_stands (stands_ofInt64 n) zero, decide_eq_false_iff_not]
  exact Number.intSteps_ne_zero nonzero

namespace Operation

/-- The exact result of an operation on two integers, if it has one. The remainder has the sign of
the first integer. -/
def exactResult? (operation : Operation) (a b : Int) : Option ℚ :=
  match operation with
  | add => some (a + b)
  | subtract => some (a - b)
  | multiply => some (a * b)
  | divide => if b = 0 then none else some (a / b)
  | mod => if b = 0 then none else some (a.tmod b)
  | _ => none

/-- What comes of an operation answers to its exact result: it is this result if it is an integer of
64 bits, otherwise it is a finite double, and it is undefined if there is no result. -/
inductive Outcome.Answers : Option ℚ → Outcome → Prop where
  /-- There is no result. -/
  | undefined : Answers none .undefined
  /-- The result is an integer of 64 bits. -/
  | integer (n : Int64) : Answers (some n.toInt) (.value (.integer n))
  /-- The result is a fraction, or beyond the integers of 64 bits. -/
  | float {exact : ℚ} {x : Float} (other : ∀ n : Int64, (n.toInt : ℚ) ≠ exact)
      (isFinite : x.isFinite = true) : Answers (some exact) (.value (.float x))

namespace Outcome.Answers

variable {outcome : Outcome}

/-- Where there is a result it is not undefined. -/
theorem eq_none {exact : Option ℚ} (answers : Answers exact .undefined) : exact = none := by
  cases answers
  rfl

/-- An integer of 64 bits is answered by itself. -/
theorem eq_integer {n : Int64} {exact : ℚ} (answers : Answers (some exact) outcome)
    (same : (n.toInt : ℚ) = exact) : outcome = .value (.integer n) := by
  cases answers with
  | integer m => rw [Int64.toInt_inj.mp (Int.cast_inj.mp same)]
  | float other => exact absurd same (other n)

/-- What is no integer of 64 bits is answered by a finite double. -/
theorem exists_float {exact : ℚ} (answers : Answers (some exact) outcome)
    (other : ∀ n : Int64, (n.toInt : ℚ) ≠ exact) :
    ∃ x, outcome = .value (.float x) ∧ x.isFinite = true := by
  cases answers with
  | integer n => exact absurd rfl (other n)
  | float _ isFinite => exact ⟨_, rfl, isFinite⟩

end Outcome.Answers

/-- Whether an operation divides the least integer by minus one. -/
def DividesLeast (operation : Operation) (a b : Int64) : Prop :=
  (operation = divide ∨ operation = mod) ∧ a.toInt = Number.leastInteger ∧ b.toInt = -1

/-- An integer is the exact result of a division if there is no remainder. -/
theorem eq_div_iff_tmod {a b n : Int} (nonzero : b ≠ 0) :
    (n : ℚ) = a / b ↔ a.tmod b = 0 ∧ n = a.tdiv b := by
  have divisor : (b : ℚ) ≠ 0 := Int.cast_ne_zero.mpr nonzero
  rw [eq_div_iff divisor]
  constructor
  · intro product
    have whole : n * b = a := by exact_mod_cast product
    rw [← whole]
    exact ⟨Int.mul_tmod_left n b, (Int.mul_tdiv_cancel n nonzero).symm⟩
  · rintro ⟨noRemainder, rfl⟩
    exact_mod_cast Int.tdiv_mul_cancel (Int.dvd_of_tmod_eq_zero noRemainder)

/-- A whole result is answered by the integer if it fits, and otherwise by a finite double. -/
theorem Outcome.answers_of_whole {whole : Int} {exact : ℚ} (same : (whole : ℚ) = exact) {x : Float}
    (isFinite : x.isFinite = true) :
    Answers (some exact) (match Number.int64? whole with
      | some n => .value (.integer n)
      | none => .value (.float x)) := by
  subst same
  cases found : Number.int64? whole with
  | some n =>
    rw [← Number.int64?_eq_some_iff.mp found]
    exact .integer n
  | none =>
    refine .float (fun n same => ?_) isFinite
    rw [Number.int64?_eq_some_iff.mpr (Int.cast_inj.mp same)] at found
    cases found

section OnIntegers

variable (a b : Int64)

/-- A quotient answers to the exact quotient. -/
theorem onIntegers_divide_answers (inside : ¬ divide.DividesLeast a b) :
    Outcome.Answers (divide.exactResult? a.toInt b.toInt) (divide.onIntegers a b) := by
  by_cases zero : b.toInt = 0
  · simp only [onIntegers, exactResult?, if_pos zero]
    exact .undefined
  have quotient := Number.isFinite_ofInt_div a zero
  have range : ¬ (a.toInt = Number.leastInteger ∧ b.toInt = -1) :=
    fun least => inside ⟨.inl rfl, least⟩
  have onDoubles : divide.onFloats (Float.ofInt a.toInt) (Float.ofInt b.toInt) =
      .value (.float (Float.ofInt a.toInt / Float.ofInt b.toInt)) := by
    simp only [onFloats, ofInt_beq_zero zero, Bool.false_eq_true, if_false, if_pos quotient]
  simp only [onIntegers, exactResult?, integerResult?, if_neg zero, if_neg range, onDoubles]
  by_cases noRemainder : a.toInt.tmod b.toInt = 0
  · rw [if_pos noRemainder]
    exact Outcome.answers_of_whole ((eq_div_iff_tmod zero).mpr ⟨noRemainder, rfl⟩) quotient
  · rw [if_neg noRemainder]
    exact .float (fun n same => noRemainder ((eq_div_iff_tmod zero).mp same).1) quotient

/-- A remainder answers to the exact remainder. -/
theorem onIntegers_mod_answers (inside : ¬ mod.DividesLeast a b) :
    Outcome.Answers (mod.exactResult? a.toInt b.toInt) (mod.onIntegers a b) := by
  by_cases zero : b.toInt = 0
  · simp only [onIntegers, exactResult?, zero, true_or, if_true]
    exact .undefined
  have range : ¬ (b.toInt = 0 ∨ a.toInt = Number.leastInteger ∧ b.toInt = -1) :=
    not_or.mpr ⟨zero, fun least => inside ⟨.inr rfl, least⟩⟩
  obtain ⟨n, found⟩ := Number.exists_int64_tmod a b zero
  simp only [onIntegers, exactResult?, if_neg zero, if_neg range, found]
  rw [← Number.int64?_eq_some_iff.mp found]
  exact .integer n

/-- An operation on two integers answers to its exact result, unless it divides the least integer by
minus one. -/
theorem onIntegers_answers {operation : Operation} (two : operation ∈ binary)
    (inside : ¬ operation.DividesLeast a b) :
    Outcome.Answers (operation.exactResult? a.toInt b.toInt) (operation.onIntegers a b) := by
  simp only [binary, List.mem_cons, List.not_mem_nil, or_false] at two
  rcases two with rfl | rfl | rfl | rfl | rfl
  · have sum := Number.isFinite_ofInt_add a b
    simp only [onIntegers, integerResult?, onFloats, if_pos sum, Option.bind_some]
    exact Outcome.answers_of_whole (Int.cast_add _ _) sum
  · have difference := Number.isFinite_ofInt_sub a b
    simp only [onIntegers, integerResult?, onFloats, if_pos difference, Option.bind_some]
    exact Outcome.answers_of_whole (Int.cast_sub _ _) difference
  · have product := Number.isFinite_ofInt_mul a b
    simp only [onIntegers, integerResult?, onFloats, if_pos product, Option.bind_some]
    exact Outcome.answers_of_whole (Int.cast_mul _ _) product
  · exact onIntegers_divide_answers a b inside
  · exact onIntegers_mod_answers a b inside

/-- The least integer divided by minus one is beyond the integers, and the remainder is taken for
undefined. -/
theorem onIntegers_of_dividesLeast {operation : Operation} (least : operation.DividesLeast a b) :
    operation.onIntegers a b = if operation = .divide then .overflow else .undefined := by
  obtain ⟨divides, isLeast, isMinusOne⟩ := least
  have nonzero : ¬ b.toInt = 0 := by omega
  rcases divides with rfl | rfl
  · simp only [onIntegers, if_neg nonzero, if_pos (And.intro isLeast isMinusOne), if_true]
  · simp only [onIntegers, if_pos (Or.inr (And.intro isLeast isMinusOne)), reduceCtorEq, if_false]

end OnIntegers

/-- An operation on two integers, however they are given, is the operation on the integers. -/
theorem apply_of_spells {operation : Operation} (two : operation ∈ binary) {left right : Value}
    {a b : Int64} (first : left.Spells a) (second : right.Spells b) :
    operation.apply left (some right) = operation.onIntegers a b := by
  have notUnary : operation.isUnary = false := by
    rw [isUnary, Bool.not_eq_false', List.contains_iff_mem]
    exact two
  simp only [apply, first.quantity?, second.quantity?, Option.bind_some, notUnary, Bool.false_eq_true,
    if_false]

/-- There is no exact result exactly where something is divided by zero. -/
theorem exactResult?_eq_none {operation : Operation} (two : operation ∈ binary) {a b : Int} :
    operation.exactResult? a b = none ↔ (operation = divide ∨ operation = mod) ∧ b = 0 := by
  simp only [binary, List.mem_cons, List.not_mem_nil, or_false] at two
  rcases two with rfl | rfl | rfl | rfl | rfl <;> simp [exactResult?]

/-- An operation on two integers or texts of integers answers to its exact result, and there is none
exactly where something is divided by zero. Only the least integer divided by minus one does not:
the quotient is beyond the integers and stops the program, and the remainder is taken for
undefined. -/
theorem apply_exact {operation : Operation} (two : operation ∈ binary) {left right : Value}
    {a b : Int64} (first : left.Spells a) (second : right.Spells b) :
    (¬ operation.DividesLeast a b →
      Outcome.Answers (operation.exactResult? a.toInt b.toInt)
        (operation.apply left (some right))) ∧
    (operation.DividesLeast a b →
      operation.apply left (some right) =
        if operation = .divide then .overflow else .undefined) ∧
    (operation.exactResult? a.toInt b.toInt = none ↔
      (operation = divide ∨ operation = mod) ∧ b.toInt = 0) := by
  rw [apply_of_spells two first second]
  exact ⟨onIntegers_answers a b two, onIntegers_of_dividesLeast a b, exactResult?_eq_none two⟩

/-- The text of the least integer is divided by minus two without a loss, and the double of the
greatest integer is a double. -/
theorem apply_exact_extremes :
    (Value.string "-9223372036854775808").Spells (-9223372036854775808) ∧
      ¬ divide.DividesLeast (-9223372036854775808) (-2) ∧
      divide.apply (.string "-9223372036854775808") (some (.integer (-2))) =
        .value (.integer 4611686018427387904) ∧
      ∃ x, multiply.apply (.integer 9223372036854775807) (some (.string "2")) =
        .value (.float x) ∧ x.isFinite = true := by
  have least : (Value.string "-9223372036854775808").Spells (-9223372036854775808) := .text
  have inside : ¬ divide.DividesLeast (-9223372036854775808) (-2) :=
    fun divides => absurd divides.2.2 (by decide)
  have quotient := (apply_exact (by decide) least (.integer (n := -2))).1 inside
  have product := (@apply_exact multiply (by decide) _ _ _ _ (.integer (n := 9223372036854775807))
    (.text (n := 2))).1 fun divides => absurd divides.1 (by decide)
  have leastInt : (-9223372036854775808 : Int64).toInt = -9223372036854775808 := by decide
  have greatestInt : (9223372036854775807 : Int64).toInt = 9223372036854775807 := by decide
  have halfInt : (4611686018427387904 : Int64).toInt = 4611686018427387904 := by decide
  have twoInt : (2 : Int64).toInt = 2 := by decide
  have minusTwoInt : (-2 : Int64).toInt = -2 := by decide
  rw [leastInt, minusTwoInt, exactResult?, if_neg (by decide)] at quotient
  rw [greatestInt, twoInt, exactResult?] at product
  refine ⟨least, inside, quotient.eq_integer ?_, product.exists_float fun n same => ?_⟩
  · rw [halfInt]
    norm_num
  · have whole : n.toInt = 9223372036854775807 * 2 := by exact_mod_cast same
    have bounded := n.toInt_lt
    omega

/-- The least integer has a remainder by minus one that is taken for undefined, and a quotient that
stops the program. So not every operation answers to its exact result. -/
theorem apply_misses_least :
    mod.apply (.integer (-9223372036854775808)) (some (.integer (-1))) = .undefined ∧
      divide.apply (.integer (-9223372036854775808)) (some (.integer (-1))) = .overflow ∧
      ¬ ∀ operation ∈ binary, ∀ (left right : Value) (a b : Int64),
        left.Spells a → right.Spells b →
          Outcome.Answers (operation.exactResult? a.toInt b.toInt)
            (operation.apply left (some right)) := by
  refine ⟨rfl, rfl, fun all => ?_⟩
  have answers := all mod (by decide) _ _ _ _ (.integer (n := -9223372036854775808))
    (.integer (n := -1))
  have divides := (exactResult?_eq_none (by decide)).mp answers.eq_none
  exact absurd divides.2 (by decide)

end Operation

end Dust
