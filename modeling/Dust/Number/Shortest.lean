import Dust.Number.Binary64

/-!
# Shortest decimal digits

The decimal with the fewest digits that a reader which rounds to the nearest double takes back to
the same double, and of those the one nearest to it. All doubles between the two midpoints to the
neighbours read back, and the midpoints themselves do when the significand is even. A decimal grid
that has a point in that interval also has one next to the double, so on each grid only the two
points around the double are tried.
-/

namespace Dust.Number

/-- The digits times ten to the exponent. -/
structure Decimal where
  /-- The digits as one number. -/
  digits : Nat
  /-- The power of ten of the last digit. -/
  exponent : Int
  deriving DecidableEq

/-- Which of two equally near decimals is taken. -/
inductive Tie where
  /-- The one farther from zero. -/
  | away
  /-- The one whose last digit is even. -/
  | even
  deriving DecidableEq

namespace Decimal

/-- A power of ten. -/
def powerOfTen (exponent : Nat) : Nat :=
  Nat.pow 10 exponent

/-- The number of decimal digits of a natural number, which zero has none of. -/
def digitCount (n : Nat) : Nat :=
  if n = 0 then 0 else (Nat.toDigits 10 n).length

/-- The power of ten of the first digit of a positive fraction. -/
def leadingExponent (numerator denominator : Nat) : Int :=
  if denominator ≤ numerator then (digitCount (numerator / denominator) : Int) - 1
  else -(digitCount ((denominator + numerator - 1) / numerator - 1) : Int)

/-- The same number without zeros at the end of its digits. -/
def strip : Nat → Decimal → Decimal
  | 0, d => d
  | fuel + 1, d =>
    if d.digits % 10 = 0 ∧ d.digits ≠ 0 then strip fuel ⟨d.digits / 10, d.exponent + 1⟩ else d

/-- A positive double with the ends of the interval that reads back to it, as numerators over one
denominator. -/
structure Interval where
  /-- Lower midpoint. -/
  low : Nat
  /-- The double. -/
  value : Nat
  /-- Upper midpoint. -/
  high : Nat
  /-- The common denominator. -/
  denominator : Nat
  /-- Whether the midpoints read back too. -/
  closed : Bool

/-- The interval of a positive double. The lower neighbour of a power of two is nearer than the
upper one, unless both have the least exponent. -/
def Interval.ofBinary (significand : Nat) (exponent : Int) : Interval :=
  let narrow := significand = Binary64.fractionBound ∧ Binary64.minExponent < exponent
  let scale := Binary64.powerOfTwo exponent.toNat
  { low := (4 * significand - (if narrow then 1 else 2)) * scale
    value := 4 * significand * scale
    high := (4 * significand + 2) * scale
    denominator := 4 * Binary64.powerOfTwo (-exponent).toNat
    closed := significand % 2 = 0 }

/-- Whether a point of a grid, given over the denominator of the interval times `factor`, reads
back. -/
def Interval.holds (interval : Interval) (factor point : Nat) : Bool :=
  if interval.closed then interval.low * factor ≤ point && point ≤ interval.high * factor
  else interval.low * factor < point && point < interval.high * factor

/-- The point of the grid of multiples of ten to the exponent that is nearest to the double and
reads back, if there is one. -/
def Interval.point? (interval : Interval) (tie : Tie) (exponent : Int) : Option Decimal :=
  let factor := powerOfTen (-exponent).toNat
  let unit := interval.denominator * powerOfTen exponent.toNat
  let value := interval.value * factor
  let below := value / unit
  let above := below + 1
  let belowHolds := below ≠ 0 ∧ interval.holds factor (below * unit)
  let aboveHolds := interval.holds factor (above * unit)
  let distances := compare (value - below * unit) (above * unit - value)
  let nearer :=
    match distances, tie with
    | .lt, _ => below
    | .gt, _ => above
    | .eq, .away => above
    | .eq, .even => if below % 2 = 0 then below else above
  if belowHolds ∧ aboveHolds then some ⟨nearer, exponent⟩
  else if belowHolds then some ⟨below, exponent⟩
  else if aboveHolds then some ⟨above, exponent⟩
  else none

/-- Seventeen digits always suffice, so only grids of up to as many are tried. -/
def maxDigits : Nat := 17

/-- The shortest decimal of a positive double. -/
def shortest (tie : Tie) (significand : Nat) (exponent : Int) : Decimal :=
  let interval := Interval.ofBinary significand exponent
  let leading := leadingExponent interval.value interval.denominator
  let onGrid (count : Nat) : Option Decimal := interval.point? tie (leading - count)
  match (List.range maxDigits).findSome? onGrid with
  | some found => strip maxDigits found
  | none => ⟨interval.value / interval.denominator, 0⟩

end Decimal

end Dust.Number
