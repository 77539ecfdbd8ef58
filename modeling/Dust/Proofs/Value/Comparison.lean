import Dust.Proofs.Number.Digits
import Dust.Proofs.Number.Whole
import Dust.Proofs.Text.Class
import Dust.Proofs.Value.Swapped

/-!
# Integers and their texts compared

Two integers are compared exactly. A text is compared by the double that it spells, also with an
integer, and also if what it spells is an integer. So an integer and its text stand for the same
number, except that integers beyond 2^53 that have the same double are taken for equal as soon as
one of them is given as a text.
-/

namespace Dust

/-! ### Doubles of integers -/

section Stands

variable {x y : Float} {a b : Int} (first : Number.Stands a x.toModel.unpack)
  (second : Number.Stands b y.toModel.unpack)

include first second

/-- Doubles are equal if they stand for the same integer. -/
theorem beq_of_stands : (x == y) = decide (a = b) := by
  rw [beq_eq_compare, first.compare second, Bool.eq_iff_iff, decide_eq_true_iff,
    ← Int.compare_eq_eq]
  simp

/-- Doubles are compared as the integers they stand for. -/
theorem compareDoubles?_of_stands : compareDoubles? x y = some (compare a b) := by
  rw [compareDoubles?_eq_compare, first.compare second]

end Stands

/-- The double of a 64-bit integer stands for it, rounded. -/
theorem stands_ofInt64 (n : Int64) :
    Number.Stands (Number.intSteps n.toInt) (Float.ofInt n.toInt).toModel.unpack := by
  have least := n.le_toInt
  have less := n.toInt_lt
  exact Number.stands_ofInt (by omega)

/-- The doubles of integers are in the order of the integers, unless they are equal. -/
theorem compareDoubles?_ofInt (m n : Int64) :
    compareDoubles? (Float.ofInt m.toInt) (Float.ofInt n.toInt) =
      some (if Float.ofInt m.toInt == Float.ofInt n.toInt then .eq
        else compare m.toInt n.toInt) := by
  rw [compareDoubles?_of_stands (stands_ofInt64 m) (stands_ofInt64 n),
    beq_of_stands (stands_ofInt64 m) (stands_ofInt64 n)]
  by_cases same : Number.intSteps m.toInt = Number.intSteps n.toInt
  · simp [same]
  · simp only [same, decide_false, Bool.false_eq_true, ↓reduceIte, Option.some.injEq]
    rcases Int.lt_trichotomy m.toInt n.toInt with less | equal | more
    · have ordered := Number.intSteps_le (Int.le_of_lt less)
      rw [Int.compare_eq_lt.mpr less, Int.compare_eq_lt.mpr (by omega)]
    · exact absurd (congrArg Number.intSteps equal) same
    · have ordered := Number.intSteps_le (Int.le_of_lt more)
      rw [Int.compare_eq_gt.mpr more, Int.compare_eq_gt.mpr (by omega)]

/-- Different integers up to 2^53 have different doubles. -/
theorem ofInt_beq_of_small {m n : Int64} (small : m.toInt.natAbs ≤ 2 ^ 53)
    (also : n.toInt.natAbs ≤ 2 ^ 53) :
    (Float.ofInt m.toInt == Float.ofInt n.toInt) = decide (m = n) := by
  rw [beq_of_stands (stands_ofInt64 m) (stands_ofInt64 n), Number.intSteps_of_small small,
    Number.intSteps_of_small also, decide_eq_decide, ← Int64.toInt_inj]
  omega

/-! ### Texts of integers -/

/-- Digits are not blank. -/
theorem Text.isBlank_of_isDigit {c : Char} (digit : c.isDigit = true) : isBlank c = false := by
  have bounds := toNat_of_isDigit digit
  simp [isBlank, inRanges, blankRanges]
  omega

/-- Nothing is trimmed from a text without blanks. -/
theorem Text.trimBlanks_of_solid {text : List Char} (solid : ∀ c ∈ text, isBlank c = false) :
    trimBlanks text = text := by
  have kept : ∀ other : List Char, (∀ c ∈ other, isBlank c = false) →
      other.dropWhile isBlank = other := by
    intro other all
    exact List.dropWhile_eq_self_iff.mpr fun _ => by simp [all]
  rw [trimBlanks, kept text solid, kept text.reverse (by simpa using solid), List.reverse_reverse]

/-- The text of an integer has no blanks. -/
theorem Number.isBlank_of_mem_intText {n : Int} {c : Char} (mem : c ∈ intText n) :
    Text.isBlank c = false := by
  cases n with
  | ofNat n => exact Text.isBlank_of_isDigit (isDigit_of_mem_natText mem)
  | negSucc n =>
    rcases List.mem_cons.mp mem with rfl | mem
    · decide
    · exact Text.isBlank_of_isDigit (isDigit_of_mem_natText mem)

namespace Value

/-- A value is an integer or the text that is written for it. -/
inductive Spells (n : Int64) : Value → Prop where
  /-- The integer. -/
  | integer : Spells n (.integer n)
  /-- Its text. -/
  | text : Spells n (.string (Value.integer n).display)

/-- An integer and its text are the same quantity. -/
theorem Spells.quantity? {n : Int64} {value : Value} (spells : value.Spells n) :
    value.quantity? = some (.integer n) := by
  cases spells with
  | integer => rfl
  | text =>
    have solid := Text.trimBlanks_of_solid fun _ => @Number.isBlank_of_mem_intText n.toInt _
    rw [Value.quantity?, Quantity.ofText?, display, String.toList_ofList, solid,
      Number.readInt64?_intText]

/-- An integer and its text are the same double. -/
theorem Spells.double? {n : Int64} {value : Value} (spells : value.Spells n) :
    value.double? = some (Float.ofInt n.toInt) := by
  rw [Value.double?, spells.quantity?]
  rfl

/-- Two integers are blurred as they are given: one of them is a text, and they have the same double
without being the same. -/
structure Blurs (x y : Value) (m n : Int64) : Prop where
  /-- One of them is a text. -/
  text : x.text?.isSome = true ∨ y.text?.isSome = true
  /-- They differ. -/
  differ : m ≠ n
  /-- Their doubles are equal. -/
  double : (Float.ofInt m.toInt == Float.ofInt n.toInt) = true

section Spelled

variable {x y : Value} {m n : Int64} (first : x.Spells m) (second : y.Spells n)

include first second

/-- Integers of which one is a text are compared by their doubles. -/
theorem looseCompare?_of_text (text : x.text?.isSome = true ∨ y.text?.isSome = true) :
    x.looseCompare? y = compareDoubles? (Float.ofInt m.toInt) (Float.ofInt n.toInt) := by
  have spelled : x.compareSpelled? y =
      compareDoubles? (Float.ofInt m.toInt) (Float.ofInt n.toInt) := by
    rw [compareSpelled?, first.double?, second.double?]
  rw [← spelled]
  cases first with
  | integer =>
    cases second with
    | integer => rcases text with text | text <;> cases text
    | text => rfl
  | text => cases second <;> rfl

/-- Integers and texts of integers are compared as the integers, unless they are blurred. Then they
are equal. Up to 2^53 nothing is blurred. -/
theorem looseCompare?_of_spells :
    (¬ x.Blurs y m n →
      x.looseCompare? y = some (compare m.toInt n.toInt) ∧ x.looseEq y = decide (m = n)) ∧
    (x.Blurs y m n → x.looseCompare? y = some .eq ∧ x.looseEq y = true) ∧
    (m.toInt.natAbs ≤ 2 ^ 53 → n.toInt.natAbs ≤ 2 ^ 53 → ¬ x.Blurs y m n) := by
  refine ⟨?exact, ?blurred, ?small⟩
  case exact =>
    intro clear
    have order : x.looseCompare? y = some (compare m.toInt n.toInt) := by
      by_cases text : x.text?.isSome = true ∨ y.text?.isSome = true
      · rw [looseCompare?_of_text first second text, compareDoubles?_ofInt]
        by_cases equal : m = n
        · simp [equal]
        · have apart : ¬ (Float.ofInt m.toInt == Float.ofInt n.toInt) = true :=
            fun double => clear ⟨text, equal, double⟩
          rw [if_neg apart]
      · cases first with
        | integer =>
          cases second with
          | integer => rfl
          | text => exact absurd (.inr rfl) text
        | text => exact absurd (.inl rfl) text
    refine ⟨order, ?_⟩
    rw [looseEq, order, Bool.eq_iff_iff, decide_eq_true_iff, ← Int64.toInt_inj,
      ← Int.compare_eq_eq]
    simp
  case blurred =>
    intro blurs
    have order : x.looseCompare? y = some .eq := by
      rw [looseCompare?_of_text first second blurs.text, compareDoubles?_ofInt, if_pos blurs.double]
    exact ⟨order, by rw [looseEq, order]; rfl⟩
  case small =>
    intro small also blurs
    have same := ofInt_beq_of_small small also
    rw [blurs.double] at same
    exact blurs.differ (of_decide_eq_true same.symm)

end Spelled

/-- Ten as a text is above nine, and the greatest integer as a text is equal to the one before it. -/
theorem looseCompare?_of_spells_ten :
    (Value.string "10").looseCompare? (.integer 9) = some .gt ∧
      (Value.string "9223372036854775807").looseCompare? (.integer 9223372036854775806) =
        some .eq := by
  have ten : (Value.string "10").Spells 10 := .text
  have greatest : (Value.string "9223372036854775807").Spells 9223372036854775807 := .text
  obtain ⟨exact, -, small⟩ := looseCompare?_of_spells ten (.integer (n := 9))
  obtain ⟨-, blurred, -⟩ :=
    looseCompare?_of_spells greatest (.integer (n := 9223372036854775806))
  exact ⟨(exact (small (by decide) (by decide))).1, (blurred ⟨.inl rfl, by decide, by decide⟩).1⟩

/-- Integers and their texts are not always compared as the integers: two texts of integers that
differ are equal. -/
theorem looseCompare?_blurred :
    (Value.string "9007199254740993").looseCompare? (.string "9007199254740992") = some .eq ∧
      ¬ ∀ (x y : Value) (m n : Int64), x.Spells m → y.Spells n →
        x.looseCompare? y = some (compare m.toInt n.toInt) := by
  have first : (Value.string "9007199254740993").Spells 9007199254740993 := .text
  have second : (Value.string "9007199254740992").Spells 9007199254740992 := .text
  have equal : (Value.string "9007199254740993").looseCompare? (.string "9007199254740992") =
      some .eq := by
    rw [looseCompare?_of_text first second (.inl rfl), compareDoubles?_ofInt]
    decide
  refine ⟨equal, fun all => ?_⟩
  have order := all _ _ _ _ first second
  rw [equal] at order
  revert order
  decide

end Value

end Dust
