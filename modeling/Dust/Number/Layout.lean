import Dust.Number.Shortest

/-!
# Texts of numbers

A double is written with its shortest digits. What is left to decide is the layout: where the
positional form ends, whether a whole number shows its point, and which of two equally near digit
strings is taken. There is one layout for the text of a template and one for JSON.
-/

namespace Dust.Number

/-- The decisions of a text form of doubles. -/
structure Layout where
  /-- Which of two equally near decimals is written. -/
  tie : Tie
  /-- Whether a number is written positionally, by the power of ten of its first digit. -/
  positional : Int → Bool
  /-- What follows the digits of a whole number. -/
  wholeSuffix : List Char

/-- Templates write all digits, never an exponent, and a whole number without a point. -/
def Layout.plain : Layout := ⟨.away, fun _ => true, []⟩

/-- JSON writes an exponent below `0.00001` and from `1e16` on, and keeps whole numbers apart from
integers by `.0`. -/
def Layout.json : Layout := ⟨.even, fun leading => -5 ≤ leading && leading < 16, ['.', '0']⟩

/-- The text of a natural number. -/
def natText (n : Nat) : List Char :=
  Nat.toDigits 10 n

/-- The text of an integer. -/
def intText : Int → List Char
  | .ofNat n => natText n
  | .negSucc n => '-' :: natText (n + 1)

/-- A number of zeros. -/
def zeros (count : Nat) : List Char :=
  List.replicate count '0'

/-- The digits of a decimal with the point at its place. -/
def positionalText (wholeSuffix : List Char) (decimal : Decimal) : List Char :=
  let digits := natText decimal.digits
  if 0 ≤ decimal.exponent then digits ++ zeros decimal.exponent.toNat ++ wholeSuffix
  else
    let places := (-decimal.exponent).toNat
    let padded := zeros (places + 1 - digits.length) ++ digits
    let split := padded.length - places
    padded.take split ++ '.' :: padded.drop split

/-- The digits of a decimal with the point after the first one, and the power of ten. -/
def scientificText (leading : Int) (decimal : Decimal) : List Char :=
  let mantissa :=
    match natText decimal.digits with
    | digit :: next :: rest => digit :: '.' :: next :: rest
    | digits => digits
  mantissa ++ 'e' :: (if leading < 0 then '-' else '+') :: natText leading.natAbs

/-- The text of a double. -/
def Layout.text (layout : Layout) (x : Float) : List Char :=
  match Binary64.ofFloat x with
  | .nan => ['N', 'a', 'N']
  | .infinite negative => signText negative ++ ['i', 'n', 'f']
  | .finite negative significand exponent =>
    if significand = 0 then signText negative ++ '0' :: layout.wholeSuffix
    else
      let decimal := Decimal.shortest layout.tie significand exponent
      let leading := decimal.exponent + Decimal.digitCount decimal.digits - 1
      signText negative ++
        if layout.positional leading then positionalText layout.wholeSuffix decimal
        else scientificText leading decimal
where
  /-- The minus of a negative number. -/
  signText (negative : Bool) : List Char :=
    if negative then ['-'] else []

end Dust.Number
