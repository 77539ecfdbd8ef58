/-!
# Doubles as exact numbers

A double is read through the fields of its bits as an exact multiple of a power of two. What needs
the exact value, such as the remainder, the integer part and the decimal digits, is computed on
this form in unbounded integers.
-/

namespace Dust.Number

/-- A double as the number it stands for. -/
inductive Binary64 where
  /-- Not a number. -/
  | nan
  /-- Positive or negative infinity. -/
  | infinite (negative : Bool)
  /-- The significand times two to the exponent, with a sign that a zero keeps too. -/
  | finite (negative : Bool) (significand : Nat) (exponent : Int)
  deriving DecidableEq

namespace Binary64

/-- The exponent of subnormal doubles, the least one. -/
def minExponent : Int := -1074

/-- A power of two. -/
def powerOfTwo (exponent : Nat) : Nat :=
  Nat.pow 2 exponent

/-- The bound of fractions, of 52 bits. A normal significand is at least as great. -/
def fractionBound : Nat := 0x10000000000000

/-- The bound of exponent fields, of 11 bits. -/
def fieldBound : Nat := 0x800

/-- The weight of the sign, which is the bit after fraction and field. -/
def signWeight : Nat := 0x8000000000000000

/-- The number of a double. -/
def ofFloat (x : Float) : Binary64 :=
  let bits := x.toBits.toNat
  let negative := decide (signWeight ≤ bits)
  let field := bits / fractionBound % fieldBound
  let fraction := bits % fractionBound
  if field = 2047 then
    if fraction = 0 then infinite negative else nan
  else if field = 0 then finite negative fraction minExponent
  else finite negative (fractionBound + fraction) (minExponent + (field - 1 : Nat))

/-- The double of a number whose significand has at most 53 bits, or fits after moving the factors
of two that the exponent leaves room for. -/
def toFloat (negative : Bool) (significand : Nat) (exponent : Int) : Float :=
  let sign : Nat := if negative then signWeight else 0
  let room := min (52 - significand.log2) (exponent - minExponent).toNat
  let scaled := significand * powerOfTwo room
  let field := (exponent - minExponent).toNat - room
  let magnitude :=
    if scaled < fractionBound then scaled else field * fractionBound + scaled
  Float.ofBits (UInt64.ofNat (sign + magnitude))

/-- A signed significand. -/
def signed (negative : Bool) (significand : Nat) : Int :=
  if negative then -significand else significand

/-- The greatest integer that is not above a finite number. -/
def floor? : Binary64 → Option Int
  | finite negative significand exponent =>
    some ((signed negative significand * powerOfTwo exponent.toNat).fdiv
      (powerOfTwo (-exponent).toNat))
  | _ => none

/-- The least integer that is not below a finite number. -/
def ceiling? : Binary64 → Option Int
  | finite negative significand exponent =>
    some (-(-signed negative significand * powerOfTwo exponent.toNat).fdiv
      (powerOfTwo (-exponent).toNat))
  | _ => none

/-- The integer next to a finite number on the side of zero. -/
def truncate? : Binary64 → Option Int
  | finite negative significand exponent =>
    some ((signed negative significand * powerOfTwo exponent.toNat).tdiv
      (powerOfTwo (-exponent).toNat))
  | _ => none

/-- The integer next to a number on the side of zero, moved to the nearest of the given bounds if
it lies outside. Zero if there is no number. -/
def truncateWithin (low high : Int) : Binary64 → Int
  | nan => 0
  | infinite negative => if negative then low else high
  | number => max low (min high (number.truncate?.getD 0))

end Binary64

/-- The remainder of a division that rounds toward zero, which has the sign of the dividend and is
always a double. There is none for an infinite dividend or a zero divisor. -/
def remainder (dividend divisor : Float) : Float :=
  match Binary64.ofFloat dividend, Binary64.ofFloat divisor with
  | .finite negative m e, .finite _ n f =>
    if n = 0 then 0.0 / 0.0
    else
      let common := min e f
      let rest := m * Binary64.powerOfTwo (e - common).toNat %
        (n * Binary64.powerOfTwo (f - common).toNat)
      Binary64.toFloat negative rest common
  | .finite .., .infinite _ => dividend
  | _, _ => 0.0 / 0.0

end Dust.Number
