import Dust.Value.Quantity

/-!
# Arithmetic

Operations on quantities. Integers are calculated exactly as long as the result is an integer that
fits, and with doubles otherwise. Division by zero has no result, and neither has an operation whose
double is not finite. One division of integers goes beyond their range and stops the program.
-/

namespace Dust

/-- An operation. -/
inductive Operation where
  /-- The sum. -/
  | add
  /-- The difference. -/
  | subtract
  /-- The product. -/
  | multiply
  /-- The quotient. -/
  | divide
  /-- The remainder, which has the sign of the dividend. -/
  | mod
  /-- The magnitude. -/
  | abs
  /-- The greatest integer that is not above. -/
  | floor
  /-- The least integer that is not below. -/
  | ceil
  /-- The nearest integer, the greater of two. -/
  | round
  /-- The integer next to it on the side of zero. -/
  | toInt
  deriving DecidableEq

namespace Operation

/-- The operations on two quantities, in the order they are looked for. -/
def binary : List Operation :=
  [add, subtract, multiply, divide, mod]

/-- All operations, in the order they are looked for. -/
def all : List Operation :=
  binary ++ [abs, floor, ceil, round, toInt]

/-- The name of an operation. -/
def name : Operation → String
  | add => "add"
  | subtract => "subtract"
  | multiply => "multiply"
  | divide => "divide"
  | mod => "mod"
  | abs => "abs"
  | floor => "floor"
  | ceil => "ceil"
  | round => "round"
  | toInt => "toint"

/-- The operation of a name. -/
def ofName? (name : String) : Option Operation :=
  all.find? fun operation => operation.name = name

/-- Whether an operation has one operand. -/
def isUnary (operation : Operation) : Bool :=
  !binary.contains operation

/-- What comes of an operation. -/
inductive Outcome where
  /-- The result. -/
  | value (result : Quantity)
  /-- There is no result. -/
  | undefined
  /-- The quotient of integers is beyond their range. -/
  | overflow

/-- The operation on two doubles. -/
def onFloats (operation : Operation) (a b : Float) : Outcome :=
  let finite (x : Float) : Outcome := if x.isFinite then .value (.float x) else .undefined
  match operation with
  | add => finite (a + b)
  | subtract => finite (a - b)
  | multiply => finite (a * b)
  | divide => if b == 0.0 then .undefined else finite (a / b)
  | mod => if b == 0.0 then .undefined else finite (Number.remainder a b)
  | _ => .undefined

/-- The exact result of an operation on two integers, if it is an integer. -/
def integerResult? (operation : Operation) (a b : Int) : Option Int :=
  match operation with
  | add => some (a + b)
  | subtract => some (a - b)
  | multiply => some (a * b)
  | divide => if a.tmod b = 0 then some (a.tdiv b) else none
  | _ => none

/-- The operation on two integers. -/
def onIntegers (operation : Operation) (a b : Int64) : Outcome :=
  let onFloats := operation.onFloats (Float.ofInt a.toInt) (Float.ofInt b.toInt)
  let onExact :=
    match (operation.integerResult? a.toInt b.toInt).bind Number.int64? with
    | some n => .value (.integer n)
    | none => onFloats
  match operation with
  | divide =>
    if b.toInt = 0 then .undefined
    else if a.toInt = Number.leastInteger ∧ b.toInt = -1 then .overflow
    else onExact
  | mod =>
    if b.toInt = 0 ∨ (a.toInt = Number.leastInteger ∧ b.toInt = -1) then .undefined
    else
      match Number.int64? (a.toInt.tmod b.toInt) with
      | some n => .value (.integer n)
      | none => .undefined
  | _ => onExact

/-- The quantity of a whole number, which is a double if it does not fit an integer. -/
def ofWhole (n : Int) : Quantity :=
  match Number.int64? n with
  | some n => .integer n
  | none => .float (Float.ofInt n)

/-- A double made whole. Infinities and what is not a number stay. -/
def wholeOf (whole? : Number.Binary64 → Option Int) (x : Float) : Quantity :=
  match whole? (Number.Binary64.ofFloat x) with
  | some n => ofWhole n
  | none => .float x

/-- The operation on one quantity. Integers are whole already. -/
def onOne (operation : Operation) : Quantity → Quantity
  | .integer n =>
    match operation with
    | abs =>
      match Number.int64? n.toInt.natAbs with
      | some magnitude => .integer magnitude
      | none => .float (Float.ofInt n.toInt).abs
    | _ => .integer n
  | .float x =>
    match operation with
    | abs => .float x.abs
    | floor => wholeOf Number.Binary64.floor? x
    | ceil => wholeOf Number.Binary64.ceiling? x
    | round => wholeOf Number.Binary64.floor? (x + 0.5)
    | toInt => wholeOf Number.Binary64.truncate? x
    | _ => .float x

/-- The operation on values, where the second one may be missing. -/
def apply (operation : Operation) (left : Value) (right : Option Value) : Outcome :=
  match left.quantity? with
  | none => .undefined
  | some a =>
    if operation.isUnary then .value (operation.onOne a)
    else
      match right.bind Value.quantity? with
      | none => .undefined
      | some b =>
        match a, b with
        | .integer m, .integer n => operation.onIntegers m n
        | _, _ => operation.onFloats a.toFloat b.toFloat

end Operation

end Dust
