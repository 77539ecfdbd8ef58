import Dust.Value.Comparison

/-!
# Values compared the other way round

Two values that change places have the opposite order, and none if they had none. Doubles are
compared by the numbers that are unpacked from them, of which each pair can be turned round. Nothing
is compared as if it were false, so there are four ways to compare two values: by their truth,
as integers, as lists and maps, and by what they spell. Which one it is does not depend on the
places of the two, and each can be turned round.
-/

open Float.Model UnpackedFloat

namespace Dust

/-! ### Doubles -/

namespace Number

/-- Two signs have the opposite order the other way round. -/
theorem compare_sign_swap (s t : Sign) : compare t s = (compare s t).swap := by
  cases s <;> cases t <;> rfl

/-- Two magnitudes have the opposite order the other way round. -/
theorem compare_magnitude_swap (m n : Nat) (e f : Int) :
    (compare f e).then (compare n m) = ((compare e f).then (compare m n)).swap := by
  rw [Ordering.swap_then, Int.compare_swap, Nat.compare_swap]

/-- Two numbers have the opposite order the other way round, and none if one is not a number. -/
theorem compare_swap (x y : UnpackedFloat) : y.compare x = (x.compare y).map Ordering.swap := by
  cases x with
  | notANumber => cases y <;> rfl
  | infinity s =>
    cases y with
    | infinity t => exact congrArg some (compare_sign_swap s t)
    | _ => cases s <;> rfl
  | zero s =>
    cases y with
    | infinity t | finite t => cases t <;> rfl
    | _ => rfl
  | finite s m e =>
    cases y with
    | infinity t => cases t <;> rfl
    | notANumber => rfl
    | zero => cases s <;> rfl
    | finite t n f =>
      have magnitudes := compare_magnitude_swap m n e f
      cases s with
      | positive =>
        cases t with
        | positive => exact congrArg some magnitudes
        | negative => rfl
      | negative =>
        cases t with
        | positive => rfl
        | negative => exact congrArg (some ∘ Ordering.swap) magnitudes

end Number

/-- A double is less than another one if the numbers that are unpacked from them are in this
order. -/
theorem lt_iff_compare (x y : Float) :
    x < y ↔ x.toModel.unpack.compare y.toModel.unpack = some .lt := by
  change decide (x.toModel < y.toModel) = true ↔ _
  rw [decide_eq_true_iff]
  change (x.toModel.unpack.compare y.toModel.unpack == some .lt) = true ↔ _
  exact beq_iff_eq

/-- Doubles are equal if the numbers that are unpacked from them are in this order. -/
theorem beq_eq_compare (x y : Float) :
    (x == y) = (x.toModel.unpack.compare y.toModel.unpack == some .eq) := rfl

/-- The order of two doubles is that of the numbers that are unpacked from them. -/
theorem compareDoubles?_eq_compare (x y : Float) :
    compareDoubles? x y = x.toModel.unpack.compare y.toModel.unpack := by
  have less := lt_iff_compare x y
  have more := lt_iff_compare y x
  have equal := beq_eq_compare x y
  rw [Number.compare_swap] at more
  simp only [compareDoubles?, less, more, equal]
  rcases x.toModel.unpack.compare y.toModel.unpack with _ | (_ | _ | _) <;> rfl

/-- Two doubles have the opposite order the other way round. -/
theorem compareDoubles?_swap (x y : Float) :
    compareDoubles? y x = (compareDoubles? x y).map Ordering.swap := by
  rw [compareDoubles?_eq_compare, compareDoubles?_eq_compare, Number.compare_swap]

/-- An order that is turned round is equality if it was. -/
theorem beq_eq_map_swap (order : Option Ordering) :
    (order.map Ordering.swap == some .eq) = (order == some .eq) := by
  rcases order with _ | (_ | _ | _) <;> rfl

/-- Equality of doubles goes both ways. -/
theorem float_beq_comm (x y : Float) : (x == y) = (y == x) := by
  rw [beq_eq_compare, beq_eq_compare y, Number.compare_swap x.toModel.unpack, beq_eq_map_swap]

namespace Value

/-! ### Equality -/

mutual

/-- Equality of values goes both ways. -/
theorem beq_comm (a b : Value) : beq a b = beq b a := by
  cases a with
  | null => cases b <;> rfl
  | bool p =>
    cases b with
    | bool q => exact Bool.beq_comm
    | _ => rfl
  | integer m =>
    cases b with
    | integer n => exact Bool.beq_comm
    | _ => rfl
  | float x =>
    cases b with
    | float y => exact float_beq_comm x y
    | _ => rfl
  | string text =>
    cases b with
    | string other => exact Bool.beq_comm
    | _ => rfl
  | list as =>
    cases b with
    | list bs => exact beqItems_comm as bs
    | _ => rfl
  | map as =>
    cases b with
    | map bs => exact beqEntries_comm as bs
    | _ => rfl

/-- Equality of lists goes both ways. -/
theorem beqItems_comm (as bs : List Value) : beqItems as bs = beqItems bs as := by
  cases as with
  | nil => cases bs <;> rfl
  | cons a as =>
    cases bs with
    | nil => rfl
    | cons b bs => rw [beqItems, beqItems, beq_comm a b, beqItems_comm as bs]

/-- Equality of dictionaries goes both ways. -/
theorem beqEntries_comm (as bs : List (String × Value)) :
    beqEntries as bs = beqEntries bs as := by
  cases as with
  | nil => cases bs <;> rfl
  | cons first as =>
    obtain ⟨key, a⟩ := first
    cases bs with
    | nil => rfl
    | cons second bs =>
      obtain ⟨other, b⟩ := second
      rw [beqEntries, beqEntries, beq_comm a b, beqEntries_comm as bs, Bool.beq_comm (a := key)]

end

/-! ### Loose comparison -/

/-- Whether a value is compared with every other one by its truth. -/
def isLogical : Value → Bool
  | null | bool _ => true
  | _ => false

/-- Whether a value has other values in it. -/
def isNested : Value → Bool
  | list _ | map _ => true
  | _ => false

/-- Whether a value is an integer. -/
def isInteger : Value → Bool
  | integer _ => true
  | _ => false

variable {a b : Value}

/-- Nothing and truth values are compared by truth, where nothing is false. -/
theorem looseCompare?_of_isLogical (logical : a.isLogical = true ∨ b.isLogical = true) :
    a.looseCompare? b = some (compare a.isTruthy b.isTruthy) := by
  have falseFirst (truth : Bool) : (if truth then .lt else .eq) = compare false truth := by
    cases truth <;> rfl
  have falseLast (truth : Bool) : (if truth then .gt else .eq) = compare truth false := by
    cases truth <;> rfl
  cases a with
  | null => exact congrArg some (falseFirst b.isTruthy)
  | bool p =>
    cases b with
    | null => exact congrArg some (falseLast p)
    | _ => rfl
  | _ =>
    cases b with
    | null => exact congrArg some (falseLast _)
    | bool q => rfl
    | _ => rcases logical with logical | logical <;> cases logical

/-- Lists and maps are equal to another value, or have no order with it. -/
theorem looseCompare?_of_isNested (noFirst : a.isLogical = false) (noSecond : b.isLogical = false)
    (nested : a.isNested = true ∨ b.isNested = true) :
    a.looseCompare? b = if a == b then some .eq else none := by
  cases a with
  | null | bool => cases noFirst
  | list | map =>
    cases b with
    | null | bool => cases noSecond
    | _ => rfl
  | _ =>
    cases b with
    | null | bool => cases noSecond
    | list | map => rfl
    | _ => rcases nested with nested | nested <;> cases nested

/-- Numbers and texts are compared by what they spell, unless both are integers. -/
theorem looseCompare?_of_spelled (noFirst : a.isLogical = false) (noSecond : b.isLogical = false)
    (flatFirst : a.isNested = false) (flatSecond : b.isNested = false)
    (mixed : ¬ (a.isInteger = true ∧ b.isInteger = true)) :
    a.looseCompare? b = a.compareSpelled? b := by
  cases a with
  | null | bool => cases noFirst
  | list | map => cases flatFirst
  | integer m =>
    cases b with
    | null | bool => cases noSecond
    | list | map => cases flatSecond
    | integer n => exact absurd ⟨rfl, rfl⟩ mixed
    | _ => rfl
  | _ =>
    cases b with
    | null | bool => cases noSecond
    | list | map => cases flatSecond
    | _ => rfl

/-- What two values spell has the opposite order the other way round. -/
theorem compareSpelled?_swap (a b : Value) :
    b.compareSpelled? a = (a.compareSpelled? b).map Ordering.swap := by
  have texts : some (compare b.display a.display) =
      (some (compare a.display b.display)).map Ordering.swap :=
    congrArg some Std.OrientedOrd.eq_swap
  unfold compareSpelled?
  cases a.double? with
  | none => cases b.double? <;> exact texts
  | some x =>
    cases b.double? with
    | none => exact texts
    | some y => exact compareDoubles?_swap x y

/-- Two values have the opposite order the other way round, and none if they had none. -/
theorem looseCompare?_swap (a b : Value) :
    b.looseCompare? a = (a.looseCompare? b).map Ordering.swap := by
  by_cases logical : a.isLogical = true ∨ b.isLogical = true
  · rw [looseCompare?_of_isLogical logical, looseCompare?_of_isLogical logical.symm]
    exact congrArg some Std.OrientedOrd.eq_swap
  simp only [not_or, Bool.not_eq_true] at logical
  by_cases nested : a.isNested = true ∨ b.isNested = true
  · have same : (b == a) = (a == b) := beq_comm b a
    rw [looseCompare?_of_isNested logical.1 logical.2 nested,
      looseCompare?_of_isNested logical.2 logical.1 nested.symm, same]
    split <;> rfl
  simp only [not_or, Bool.not_eq_true] at nested
  by_cases integers : a.isInteger = true ∧ b.isInteger = true
  · cases a with
    | integer m =>
      cases b with
      | integer n => exact congrArg some Std.OrientedOrd.eq_swap
      | _ => cases integers.2
    | _ => cases integers.1
  · rw [looseCompare?_of_spelled logical.1 logical.2 nested.1 nested.2 integers,
      looseCompare?_of_spelled logical.2 logical.1 nested.2 nested.1 fun both =>
        integers both.symm]
    exact compareSpelled?_swap a b

/-- Loose equality goes both ways. -/
theorem looseEq_comm (a b : Value) : a.looseEq b = b.looseEq a := by
  rw [looseEq, looseEq, looseCompare?_swap a b, beq_eq_map_swap]

end Value

end Dust
