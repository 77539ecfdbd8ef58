import Dust.Number.Reader
import Dust.Text.Blank
import Dust.Value.Basic

/-!
# Quantities

A quantity is a value as a number. Texts that spell a number are quantities too, with blanks around
them: an integer if they spell one that fits, and otherwise a finite double.
-/

namespace Dust

/-- A number. -/
inductive Quantity where
  /-- A 64-bit integer. -/
  | integer (n : Int64)
  /-- A double. -/
  | float (x : Float)

namespace Quantity

/-- The double nearest to a quantity. -/
def toFloat : Quantity → Float
  | integer n => Float.ofInt n.toInt
  | float x => x

/-- A quantity as a value. -/
def toValue : Quantity → Value
  | integer n => .integer n
  | float x => .float x

/-- The quantity that a text spells. -/
def ofText? (text : String) : Option Quantity :=
  let trimmed := Text.trimBlanks text.toList
  match Number.readInt64? trimmed with
  | some n => some (integer n)
  | none =>
    match Number.readFloat? trimmed with
    | some x => if x.isFinite then some (float x) else none
    | none => none

end Quantity

/-- The quantity of a value, if it is a number or spells one. -/
def Value.quantity? : Value → Option Quantity
  | integer n => some (.integer n)
  | float x => some (.float x)
  | string text => Quantity.ofText? text
  | _ => none

/-- The quantity of a value as a double. -/
def Value.double? (value : Value) : Option Float :=
  value.quantity?.map Quantity.toFloat

end Dust
