import Dust.Proofs.Text.Class
import Dust.Text.Utf8
import Mathlib.Data.List.TakeWhile

/-!
# Distances in bytes

A reader that counts bytes looks for a character or a mark in a text and is told the number of bytes
before it. These numbers are the sizes of what the text begins with, so that cutting the text there
cuts no character.
-/

namespace Dust.Text

/-- A text with a character ends behind the byte where it begins. -/
theorem lt_add_byteSize_cons (byte : Nat) (first : Char) (rest : List Char) :
    byte < byte + byteSize (first :: rest) := by
  have positive := first.utf8Size_pos
  rw [byteSize_cons]
  omega

/-- The rest of a text behind some bytes, if the text is long enough and the cut does not go through
a character. -/
def dropBytes? (bytes : Nat) (text : List Char) : Option (List Char) :=
  (splitBytes? bytes text).map (·.2)

/-- Behind the bytes of what a text begins with is the rest of it. -/
theorem dropBytes?_append (front back : List Char) :
    dropBytes? (byteSize front) (front ++ back) = some back := by
  simp [dropBytes?, splitBytes?_append]

/-- Behind the first byte of a text whose first character has one byte is the rest of it. -/
theorem dropBytes?_one {first : Char} (ascii : first.utf8Size = 1) (rest : List Char) :
    dropBytes? 1 (first :: rest) = some rest := by
  have cut := dropBytes?_append [first] rest
  rwa [byteSize_cons, ascii, byteSize_nil] at cut

/-- The number of bytes before the first character of a class. -/
def bytesBefore? (inClass : Char → Bool) : List Char → Option Nat
  | [] => none
  | c :: rest => if inClass c then some 0 else (bytesBefore? inClass rest).map (c.utf8Size + ·)

/-- The number of bytes before the first mark with a closing brace directly after it. -/
def bytesBeforeMark? (mark : Char) : List Char → Option Nat
  | c :: next :: rest =>
    if c = mark ∧ next = '}' then some 0
    else (bytesBeforeMark? mark (next :: rest)).map (c.utf8Size + ·)
  | _ => none

/-- A text without characters of a class has none before which there are bytes. -/
theorem bytesBefore?_eq_none {inClass : Char → Bool} {text : List Char}
    (free : ∀ c ∈ text, inClass c = false) : bytesBefore? inClass text = none := by
  induction text with
  | nil => rfl
  | cons c rest induction =>
    obtain ⟨here, later⟩ := List.forall_mem_cons.mp free
    simp [bytesBefore?, here, induction later]

/-- Before the first character of a class are the bytes of what stands before it. -/
theorem bytesBefore?_append {inClass : Char → Bool} {front rest : List Char} {c : Char}
    (free : ∀ c ∈ front, inClass c = false) (found : inClass c = true) :
    bytesBefore? inClass (front ++ c :: rest) = some (byteSize front) := by
  induction front with
  | nil => simp [bytesBefore?, found, byteSize_nil]
  | cons other later induction =>
    obtain ⟨here, behind⟩ := List.forall_mem_cons.mp free
    simp [bytesBefore?, here, induction behind, byteSize_cons]

/-- The characters of a class at the front of a text are as many as they are. -/
theorem take_length_takeWhile (inClass : Char → Bool) (text : List Char) :
    text.take (text.takeWhile inClass).length = text.takeWhile inClass :=
  (List.prefix_iff_eq_take.mp (List.takeWhile_prefix _)).symm

/-- Behind the characters of a class at the front of a text is the rest. -/
theorem drop_length_takeWhile (inClass : Char → Bool) (text : List Char) :
    text.drop (text.takeWhile inClass).length = text.dropWhile inClass := by
  have cut : text.take (text.takeWhile inClass).length ++
      text.drop (text.takeWhile inClass).length =
        text.takeWhile inClass ++ text.dropWhile inClass := by
    rw [List.take_append_drop, List.takeWhile_append_dropWhile]
  rwa [take_length_takeWhile, List.append_cancel_left_eq] at cut

/-- A text of characters that have one byte has as many bytes as characters. -/
theorem byteSize_eq_length {text : List Char} (ascii : ∀ c ∈ text, c.utf8Size = 1) :
    byteSize text = text.length := by
  induction text with
  | nil => rfl
  | cons c rest induction =>
    obtain ⟨here, later⟩ := List.forall_mem_cons.mp ascii
    rw [byteSize_cons, here, induction later, List.length_cons, Nat.add_comm]

/-- A character below the first one with two bytes has one byte. -/
theorem utf8Size_eq_one {c : Char} (ascii : c.toNat < 128) : c.utf8Size = 1 :=
  Char.utf8Size_eq_one_iff.mpr (UInt32.le_iff_toNat_le.mpr (Nat.lt_succ_iff.mp ascii))

/-- A digit has one byte. -/
theorem utf8Size_of_isDigit {c : Char} (digit : c.isDigit = true) : c.utf8Size = 1 :=
  utf8Size_eq_one (by have := toNat_of_isDigit digit; omega)

/-- Digits have as many bytes as they are. -/
theorem byteSize_digits (text : List Char) :
    byteSize (text.takeWhile Char.isDigit) = (text.takeWhile Char.isDigit).length :=
  byteSize_eq_length fun _ mem => utf8Size_of_isDigit (List.mem_takeWhile_imp mem)

/-- A letter of ASCII is below the first character with two bytes. -/
theorem toNat_lt_of_isAlpha {c : Char} (letter : c.isAlpha = true) : c.toNat < 128 := by
  have upperOrLower : (decide ('A'.val ≤ c.val ∧ c.val ≤ 'Z'.val) ||
      (decide ('a'.val ≤ c.val) && decide (c.val ≤ 'z'.val))) = true := letter
  simp only [Bool.or_eq_true, Bool.and_eq_true, decide_eq_true_eq] at upperOrLower
  rcases upperOrLower with ⟨_, below⟩ | ⟨_, below⟩
  · have upper : c.toNat ≤ 90 := UInt32.le_iff_toNat_le.mp below
    omega
  · have lower : c.toNat ≤ 122 := UInt32.le_iff_toNat_le.mp below
    omega

/-- A letter of ASCII has one byte. -/
theorem utf8Size_of_isAlpha {c : Char} (letter : c.isAlpha = true) : c.utf8Size = 1 :=
  utf8Size_eq_one (toNat_lt_of_isAlpha letter)

/-- Letters of ASCII have as many bytes as they are. -/
theorem byteSize_letters (text : List Char) :
    byteSize (text.takeWhile Char.isAlpha) = (text.takeWhile Char.isAlpha).length :=
  byteSize_eq_length fun _ mem => utf8Size_of_isAlpha (List.mem_takeWhile_imp mem)

end Dust.Text
