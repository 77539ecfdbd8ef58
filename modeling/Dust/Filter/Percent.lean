/-!
# Percent encoding

In a URI a character stands for itself, or every byte of its UTF-8 form is written as a percent sign
and two hexadecimal digits. Letters and digits always stand for themselves, and which marks do
depends on the part of the URI.
-/

namespace Dust.Filter

/-- The marks that stand for themselves everywhere in a URI. -/
def unreservedMarks : List Char :=
  "-_.!~*'()".toList

/-- The marks that have a meaning in a URI. -/
def reservedMarks : List Char :=
  ";/?:@&=+$,#".toList

/-- A hexadecimal digit in upper case. -/
def upperHexDigit (n : Nat) : Char :=
  if n < 10 then Char.ofNat ('0'.toNat + n) else Char.ofNat ('A'.toNat + (n - 10))

/-- A byte as a percent sign and two digits. -/
def percentByte (byte : UInt8) : List Char :=
  ['%', upperHexDigit (byte.toNat / 16), upperHexDigit (byte.toNat % 16)]

/-- What stands for a character, if some marks stand for themselves. -/
def percentCharacter (kept : List Char) (c : Char) : List Char :=
  if c.isAlphanum || kept.contains c then [c]
  else (String.utf8EncodeChar c).flatMap percentByte

/-- A text as a URI. -/
def encodeUri (text : List Char) : List Char :=
  text.flatMap (percentCharacter (unreservedMarks ++ reservedMarks))

/-- A text as a component of a URI. -/
def encodeUriComponent (text : List Char) : List Char :=
  text.flatMap (percentCharacter unreservedMarks)

end Dust.Filter
