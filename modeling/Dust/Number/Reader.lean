import Dust.Number.Binary64

/-!
# Numbers read from text

Integers are a sign and digits, and are refused outside the range of their type. Doubles are read
in decimal notation, with or without point and exponent, or as the names of infinity and of what is
not a number; a decimal is rounded once, to the nearest double.
-/

namespace Dust.Number

/-- The value of a decimal digit. -/
def digitValue (c : Char) : Nat :=
  c.toNat - '0'.toNat

/-- The number that a list of digits spells. -/
def ofDigits (digits : List Char) : Nat :=
  digits.foldl (fun value c => 10 * value + digitValue c) 0

/-- The number that a text of digits spells, of which there is at least one. -/
def readDigits? (text : List Char) : Option Nat :=
  if text ≠ [] ∧ text.all Char.isDigit then some (ofDigits text) else none

/-- The sign in front of a text, if there is one, and the rest: whether it is a minus. -/
def splitSign : List Char → Bool × List Char
  | '+' :: rest => (false, rest)
  | '-' :: rest => (true, rest)
  | text => (false, text)

/-- The least integer of 64 bits. -/
def leastInteger : Int := -9223372036854775808

/-- The greatest integer of 64 bits. -/
def greatestInteger : Int := 9223372036854775807

/-- The 64-bit integer of this value, if it is in range. -/
def int64? (n : Int) : Option Int64 :=
  if leastInteger ≤ n ∧ n ≤ greatestInteger then some (Int64.ofInt n) else none

/-- A 64-bit integer in decimal. -/
def readInt64? (text : List Char) : Option Int64 := do
  let (negative, digits) := splitSign text
  let magnitude ← readDigits? digits
  int64? (Binary64.signed negative magnitude)

/-- The bound of positions in a list, of 64 bits. -/
def indexBound : Nat := 0x10000000000000000

/-- A position in decimal, which a plus sign may precede. -/
def readIndex? (text : List Char) : Option Nat := do
  let digits := match text with
    | '+' :: rest => rest
    | _ => text
  let index ← readDigits? digits
  if index < indexBound then some index else none

/-- The double nearest to the digits times ten to the exponent. The size of the exponent is bounded
first: beyond the bounds the double is infinite or zero. -/
def nearest (digits : Nat) (exponent : Int) : Float :=
  if digits = 0 then 0.0
  else
    let leading := exponent + (Nat.toDigits 10 digits).length
    if 400 < leading then 1.0 / 0.0
    else if leading < -400 then 0.0
    else Float.ofScientific digits (exponent < 0) exponent.natAbs

/-- An exponent after its mark, zero if there is none. -/
def readExponent? : List Char → Option Int
  | [] => some 0
  | mark :: text =>
    if mark = 'e' ∨ mark = 'E' then do
      let (negative, digits) := splitSign text
      let magnitude ← readDigits? digits
      some (Binary64.signed negative magnitude)
    else none

/-- A positive double in decimal notation: digits with a point anywhere among them or without one,
and an exponent. -/
def readDecimal? (text : List Char) : Option Float := do
  let whole := text.takeWhile Char.isDigit
  let afterWhole := text.dropWhile Char.isDigit
  let (fraction, afterFraction) := match afterWhole with
    | '.' :: rest => (rest.takeWhile Char.isDigit, rest.dropWhile Char.isDigit)
    | _ => ([], afterWhole)
  if whole = [] ∧ fraction = [] then none
  else
    let exponent ← readExponent? afterFraction
    some (nearest (ofDigits (whole ++ fraction)) (exponent - fraction.length))

/-- A double: a sign, then a decimal or a name in any case. -/
def readFloat? (text : List Char) : Option Float := do
  let (negative, magnitude) := splitSign text
  let x ← match String.ofList (magnitude.map Char.toLower) with
    | "nan" => some (0.0 / 0.0)
    | "inf" => some (1.0 / 0.0)
    | "infinity" => some (1.0 / 0.0)
    | _ => readDecimal? magnitude
  some (if negative then -x else x)

end Dust.Number
