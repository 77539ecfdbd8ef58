import Dust.Number.Reader

/-!
# Numbers of JSON

A number without fraction and exponent is an integer as long as it fits 64 bits, with a sign or
without one. Every other number is a double, which is computed from the leading digits that fit 64
bits and one power of ten. That is fast, and rounds more than once, so that the last bit may differ
from the nearest double. A number beyond the doubles has no value.
-/

namespace Dust.Json

/-- The value of a written number. -/
inductive Numeral where
  /-- An integer that fits 64 bits, signed or unsigned. -/
  | integer (n : Int)
  /-- A double. -/
  | float (x : Float)

/-- The bound of unsigned integers and of the digits that are kept. -/
def unsignedBound : Nat := 0x10000000000000000

/-- The greatest power of ten that is a double. -/
def maxPower : Nat := 308

/-- The bound of the exponents that are told apart. -/
def exponentBound : Nat := 0x80000000

/-- The double next to a power of ten. -/
def powerOfTen (exponent : Nat) : Float :=
  Float.ofScientific 1 false exponent

/-- A double times a power of ten, if the product is finite. What is divided by two powers of ten
in a row has at most twenty digits, so nothing is left of it after that. -/
def scaled? (x : Float) (exponent : Int) : Option Float :=
  if 0 ≤ exponent then
    if exponent ≤ maxPower then
      let product := x * powerOfTen exponent.toNat
      if product.isFinite then some product else none
    else if x == 0.0 then some x else none
  else if exponent.natAbs ≤ maxPower then some (x / powerOfTen exponent.natAbs)
  else if exponent.natAbs ≤ 2 * maxPower then
    some (x / powerOfTen maxPower / powerOfTen (exponent.natAbs - maxPower))
  else some 0.0

/-- Appends digits to a significand up to the first one that does not fit. Returns the significand
and the digits that are left. -/
def appendDigits (significand : Nat) : List Char → Nat × List Char
  | [] => (significand, [])
  | c :: rest =>
    let extended := 10 * significand + Number.digitValue c
    if extended < unsignedBound then appendDigits extended rest else (significand, c :: rest)

/-- The parts of a written number: its sign, the digits before and after the point, and the sign
and the digits of the exponent. -/
structure Written where
  /-- Whether a minus precedes the number. -/
  negative : Bool
  /-- The digits before the point. -/
  whole : List Char
  /-- The digits after the point. -/
  fraction : List Char
  /-- Whether a minus precedes the exponent. -/
  exponentNegative : Bool
  /-- The digits of the exponent, if there is one. -/
  exponent : Option (List Char)

/-- The parts of a number as written. -/
def Written.ofText (text : List Char) : Written :=
  let (negative, text) := Number.splitSign text
  let whole := text.takeWhile Char.isDigit
  let afterWhole := text.dropWhile Char.isDigit
  let (fraction, afterFraction) := match afterWhole with
    | '.' :: rest => (rest.takeWhile Char.isDigit, rest.dropWhile Char.isDigit)
    | _ => ([], afterWhole)
  match afterFraction with
  | _ :: exponent =>
    let (exponentNegative, digits) := Number.splitSign exponent
    ⟨negative, whole, fraction, exponentNegative, some digits⟩
  | [] => ⟨negative, whole, fraction, false, none⟩

/-- The magnitude of a double. Digits before the point that do not fit raise the exponent, digits
after it that do not fit are dropped. An exponent that is too large to be told apart stands for
infinity or zero. -/
def Written.magnitude? (written : Written) : Option Float :=
  let (head, dropped) := appendDigits 0 written.whole
  let (significand, rest) := appendDigits head written.fraction
  let point : Int := dropped.length - (written.fraction.length - rest.length : Nat)
  match written.exponent with
  | none => scaled? (Float.ofNat significand) point
  | some digits =>
    let exponent := Number.ofDigits digits
    if exponent < exponentBound then
      scaled? (Float.ofNat significand)
        (point + Number.Binary64.signed written.exponentNegative exponent)
    else if significand ≠ 0 ∧ !written.exponentNegative then none
    else some 0.0

/-- The integer that a number stands for, if it has neither fraction nor exponent and fits. Minus
zero is not an integer. -/
def Written.integer? (written : Written) : Option Int :=
  if written.fraction = [] ∧ written.exponent = none then
    let magnitude := Number.ofDigits written.whole
    if written.negative then
      if 0 < magnitude ∧ Number.leastInteger ≤ -magnitude then some (-magnitude) else none
    else if magnitude < unsignedBound then some magnitude else none
  else none

/-- The value of a number as written, if it is not beyond the doubles. -/
def numeral? (text : List Char) : Option Numeral :=
  let written := Written.ofText text
  match written.integer? with
  | some n => some (.integer n)
  | none => do
    let x ← written.magnitude?
    some (.float (if written.negative then -x else x))

end Dust.Json
