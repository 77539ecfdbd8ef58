import Dust.Value.Quantity

/-!
# Loose comparison

Comparison converts before it compares. Nothing equals what is not truthy and is below the rest,
truth values compare by truthiness, and numbers compare with texts that spell numbers by value.
Other texts, and a number with a text that spells none, compare by the code points of what is
written. Lists and maps are equal or have no order.
-/

namespace Dust

/-- The order of two doubles. What is not a number has none. -/
def compareDoubles? (a b : Float) : Option Ordering :=
  if a < b then some .lt
  else if a == b then some .eq
  else if b < a then some .gt
  else none

namespace Value

/-- The order of two values by the doubles they spell, or by their texts if one spells none. -/
def compareSpelled? (a b : Value) : Option Ordering :=
  match a.double?, b.double? with
  | some x, some y => compareDoubles? x y
  | _, _ => some (compare a.display b.display)

/-- The loose order of two values, if they have one. -/
def looseCompare? (a b : Value) : Option Ordering :=
  match a, b with
  | null, other => some (if other.isTruthy then .lt else .eq)
  | other, null => some (if other.isTruthy then .gt else .eq)
  | bool _, _ | _, bool _ => some (compare a.isTruthy b.isTruthy)
  | integer m, integer n => some (compare m.toInt n.toInt)
  | list _, _ | _, list _ | map _, _ | _, map _ => if a == b then some .eq else none
  | _, _ => compareSpelled? a b

/-- Whether two values are loosely equal. -/
def looseEq (a b : Value) : Bool :=
  looseCompare? a b == some .eq

end Value

end Dust
