import Dust.Dict
import Dust.Number.Layout
import Dust.Number.Reader

/-!
# Values

A value is what a template is rendered against: nothing, a truth value, a number, a text, a list or
a map. Maps are dictionaries. Floats keep their infinities and what is not a number.
-/

namespace Dust

/-- Data that a template can refer to. -/
inductive Value where
  /-- No value. -/
  | null
  /-- A truth value. -/
  | bool (b : Bool)
  /-- A 64-bit integer. -/
  | integer (n : Int64)
  /-- A double. -/
  | float (x : Float)
  /-- A text. -/
  | string (text : String)
  /-- Values in order. -/
  | list (items : List Value)
  /-- Values by key, in the order of the keys. -/
  | map (entries : List (String × Value))
  deriving Inhabited

namespace Value

/-- Whether a value counts as true. Nothing, zero and what is empty do not. -/
def isTruthy : Value → Bool
  | null => false
  | bool b => b
  | integer n => n != 0
  | float x => !(x == 0.0)
  | string text => !text.isEmpty
  | list items => !items.isEmpty
  | map entries => !entries.isEmpty

/-- The name of the type of a value in messages. -/
def typeName : Value → String
  | null => "none"
  | bool _ => "bool"
  | integer _ => "integer"
  | float _ => "float"
  | string _ => "string"
  | list _ => "list"
  | map _ => "map"

/-- The text of a value if it is one. -/
def text? : Value → Option String
  | string text => some text
  | _ => none

/-- How a value is written into the output. Nothing, lists and maps leave no trace. -/
def display : Value → String
  | null | list _ | map _ => ""
  | bool b => if b then "true" else "false"
  | integer n => String.ofList (Number.intText n.toInt)
  | float x => String.ofList (Number.Layout.plain.text x)
  | string text => text

/-- The number of items of a list or entries of a map, zero for nothing and one for the rest. -/
def size : Value → Nat
  | null => 0
  | list items => items.length
  | map entries => entries.length
  | _ => 1

mutual

/-- Whether two values are equal. Integers and floats are never equal, and what is not a number
differs from itself. -/
def beq : Value → Value → Bool
  | null, null => true
  | bool a, bool b => a == b
  | integer a, integer b => a == b
  | float a, float b => a == b
  | string a, string b => a == b
  | list as, list bs => beqItems as bs
  | map as, map bs => beqEntries as bs
  | _, _ => false

/-- Whether two lists of values are equal. -/
def beqItems : List Value → List Value → Bool
  | [], [] => true
  | a :: as, b :: bs => beq a b && beqItems as bs
  | _, _ => false

/-- Whether two dictionaries of values are equal. -/
def beqEntries : List (String × Value) → List (String × Value) → Bool
  | [], [] => true
  | (key, a) :: as, (other, b) :: bs => key == other && beq a b && beqEntries as bs
  | _, _ => false

end

instance : BEq Value := ⟨beq⟩

mutual

/-- The value with nothing in place of every infinity and of what is not a number. -/
def withFiniteFloats : Value → Value
  | float x => if x.isFinite then float x else null
  | list items => list (withFiniteItems items)
  | map entries => map (withFiniteEntries entries)
  | value => value

/-- The values of a list with finite floats. -/
def withFiniteItems : List Value → List Value
  | [] => []
  | item :: rest => withFiniteFloats item :: withFiniteItems rest

/-- The values of a dictionary with finite floats. -/
def withFiniteEntries : List (String × Value) → List (String × Value)
  | [] => []
  | (key, value) :: rest => (key, withFiniteFloats value) :: withFiniteEntries rest

end

/-- The value of a count, a float if it does not fit an integer. -/
def ofNat (n : Nat) : Value :=
  match Number.int64? n with
  | some n => integer n
  | none => float (Float.ofNat n)

end Value

end Dust
