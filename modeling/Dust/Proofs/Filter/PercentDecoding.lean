import Dust.Filter.Builtin
import Dust.Proofs.Text.Bytes
import Mathlib.Data.List.Basic

/-!
# Percent decoding

Percent encoding is undone byte by byte. It can be, because no byte of a character with several
bytes is the byte of a character that stands for itself, and the percent sign never stands for
itself. So a text with percent signs in it is told from the text that it would be decoded to.
-/

namespace Dust.Filter

/-! ### Encoding bytes -/

/-- The bytes of a text in UTF-8. -/
def utf8Bytes (text : List Char) : List UInt8 :=
  text.flatMap String.utf8EncodeChar

/-- What stands for a byte, if some marks stand for themselves. -/
def percentOctet (kept : List Char) (byte : UInt8) : List Char :=
  if (Char.ofUInt8 byte).isAlphanum || (utf8Bytes kept).contains byte then [Char.ofUInt8 byte]
  else percentByte byte

/-- A character of ASCII has its code point as its only byte. -/
theorem utf8EncodeChar_of_ascii {c : Char} (ascii : c.toNat < 128) :
    String.utf8EncodeChar c = [UInt8.ofNat c.toNat] := by
  have below : c.val.toNat ≤ 127 := Nat.le_of_lt_succ ascii
  rw [String.utf8EncodeChar, if_pos below]
  rfl

/-- The bytes of all other characters are beyond those of ASCII. -/
theorem le_toNat_of_mem_utf8EncodeChar {c : Char} {byte : UInt8} (beyond : 128 ≤ c.toNat)
    (mem : byte ∈ String.utf8EncodeChar c) : 128 ≤ byte.toNat := by
  have above : ¬ c.val.toNat ≤ 127 := Nat.not_le_of_lt beyond
  simp only [String.utf8EncodeChar, if_neg above] at mem
  split at mem
  · simp only [List.mem_cons, List.not_mem_nil, or_false] at mem
    rcases mem with rfl | rfl <;> rw [UInt8.toNat_ofNat'] <;> omega
  · split at mem
    · simp only [List.mem_cons, List.not_mem_nil, or_false] at mem
      rcases mem with rfl | rfl | rfl <;> rw [UInt8.toNat_ofNat'] <;> omega
    · simp only [List.mem_cons, List.not_mem_nil, or_false] at mem
      rcases mem with rfl | rfl | rfl | rfl <;> rw [UInt8.toNat_ofNat'] <;> omega

/-- The only byte of a character of ASCII is the byte of that character. -/
theorem ofUInt8_of_ascii {c : Char} (ascii : c.toNat < 128) :
    Char.ofUInt8 (UInt8.ofNat c.toNat) = c := by
  apply Char.ext
  apply UInt32.toNat_inj.mp
  change (UInt8.ofNat c.toNat).toNat = c.toNat
  rw [UInt8.toNat_ofNat', Nat.mod_eq_of_lt (by omega)]

/-- No letter or digit is beyond ASCII. -/
theorem toNat_lt_of_isAlphanum {c : Char} (alphanumeric : c.isAlphanum = true) :
    c.toNat < 128 := by
  rcases Bool.or_eq_true_iff.mp alphanumeric with letter | digit
  · exact Text.toNat_lt_of_isAlpha letter
  · have bounds := toNat_of_isDigit digit
    omega

/-- The characters of ASCII among which a byte is that of a character are those among which the
character is. -/
theorem mem_utf8Bytes {kept : List Char} (allAscii : ∀ c ∈ kept, c.toNat < 128) {c : Char}
    (ascii : c.toNat < 128) : UInt8.ofNat c.toNat ∈ utf8Bytes kept ↔ c ∈ kept := by
  constructor
  · intro mem
    obtain ⟨other, isKept, same⟩ := List.mem_flatMap.mp mem
    rw [utf8EncodeChar_of_ascii (allAscii other isKept), List.mem_singleton] at same
    have equal := congrArg Char.ofUInt8 same
    rw [ofUInt8_of_ascii ascii, ofUInt8_of_ascii (allAscii other isKept)] at equal
    rwa [equal]
  · intro isKept
    refine List.mem_flatMap.mpr ⟨c, isKept, ?_⟩
    rw [utf8EncodeChar_of_ascii ascii]
    exact List.mem_singleton_self _

/-- A byte beyond ASCII is never written as a character. -/
theorem percentOctet_of_beyond {kept : List Char} (allAscii : ∀ c ∈ kept, c.toNat < 128)
    {byte : UInt8} (beyond : 128 ≤ byte.toNat) : percentOctet kept byte = percentByte byte := by
  have noAlphanumeric : (Char.ofUInt8 byte).isAlphanum = false := by
    refine Bool.eq_false_iff.mpr fun alphanumeric => ?_
    have ascii : byte.toNat < 128 := toNat_lt_of_isAlphanum alphanumeric
    omega
  have notKept : byte ∉ utf8Bytes kept := by
    intro mem
    obtain ⟨c, isKept, same⟩ := List.mem_flatMap.mp mem
    have ascii := allAscii c isKept
    rw [utf8EncodeChar_of_ascii ascii, List.mem_singleton] at same
    rw [same, UInt8.toNat_ofNat'] at beyond
    omega
  simp [percentOctet, noAlphanumeric, notKept]

/-- A character is encoded byte by byte. -/
theorem percentCharacter_eq {kept : List Char} (allAscii : ∀ c ∈ kept, c.toNat < 128) (c : Char) :
    percentCharacter kept c = (String.utf8EncodeChar c).flatMap (percentOctet kept) := by
  by_cases ascii : c.toNat < 128
  · have byte : (String.utf8EncodeChar c).flatMap percentByte =
        percentByte (UInt8.ofNat c.toNat) := by
      rw [utf8EncodeChar_of_ascii ascii, List.flatMap_singleton]
    rw [percentCharacter, byte, utf8EncodeChar_of_ascii ascii, List.flatMap_singleton, percentOctet,
      ofUInt8_of_ascii ascii]
    simp only [List.contains_eq_mem, mem_utf8Bytes allAscii ascii]
  · have beyond : 128 ≤ c.toNat := Nat.le_of_not_lt ascii
    have noAlphanumeric : c.isAlphanum = false :=
      Bool.eq_false_iff.mpr fun alphanumeric => ascii (toNat_lt_of_isAlphanum alphanumeric)
    have notKept : c ∉ kept := fun isKept => ascii (allAscii c isKept)
    have bytes : ∀ byte ∈ String.utf8EncodeChar c, percentByte byte = percentOctet kept byte :=
      fun byte mem =>
        (percentOctet_of_beyond allAscii (le_toNat_of_mem_utf8EncodeChar beyond mem)).symm
    simp only [percentCharacter, noAlphanumeric, List.contains_eq_mem, notKept, decide_false,
      Bool.or_self, Bool.false_eq_true, if_false]
    exact List.flatMap_congr bytes

/-- A text is encoded byte by byte. -/
theorem percent_bytewise {kept : List Char} (allAscii : ∀ c ∈ kept, c.toNat < 128)
    (text : List Char) :
    text.flatMap (percentCharacter kept) = (utf8Bytes text).flatMap (percentOctet kept) := by
  rw [utf8Bytes, List.flatMap_assoc]
  exact List.flatMap_congr fun c _ => percentCharacter_eq allAscii c

/-! ### Decoding -/

/-- The bytes that a text with percent signs stands for. There are none if two hexadecimal digits do
not follow a percent sign. -/
def percentDecode? : List Char → Option (List UInt8)
  | [] => some []
  | '%' :: high :: low :: rest => do
    let byte := UInt8.ofNat (16 * (← Json.hexValue? high) + (← Json.hexValue? low))
    some (byte :: (← percentDecode? rest))
  | c :: rest =>
    if c = '%' then none
    else do some (String.utf8EncodeChar c ++ (← percentDecode? rest))

/-- The text that a text with percent signs stands for. There is none if its bytes are no UTF-8. -/
def decodePercent? (text : List Char) : Option String := do
  String.fromUTF8? (← percentDecode? text).toByteArray

/-- The value of a hexadecimal digit in upper case. -/
theorem hexValue?_upperHexDigit : ∀ n < 16, Json.hexValue? (upperHexDigit n) = some n := by
  decide

/-- What stands for a byte is decoded to it. -/
theorem percentDecode?_byte (byte : UInt8) (rest : List Char) :
    percentDecode? (percentByte byte ++ rest) = (percentDecode? rest).map (byte :: ·) := by
  have bound := byte.toNat_lt
  have value : UInt8.ofNat (16 * (byte.toNat / 16) + byte.toNat % 16) = byte := by
    rw [Nat.div_add_mod, UInt8.ofNat_toNat]
  rw [percentByte, List.cons_append, List.cons_append, List.cons_append, List.nil_append,
    percentDecode?, hexValue?_upperHexDigit _ (by omega), hexValue?_upperHexDigit _ (by omega)]
  simp only [Option.bind_eq_bind, Option.bind_some, value]
  cases percentDecode? rest <;> rfl

/-- A character that is no percent sign is decoded to its bytes. -/
theorem percentDecode?_cons {c : Char} (other : c ≠ '%') (rest : List Char) :
    percentDecode? (c :: rest) = (percentDecode? rest).map (String.utf8EncodeChar c ++ ·) := by
  rw [percentDecode?]
  · rw [if_neg other]
    cases percentDecode? rest <;> rfl
  · intro _ _ _ percent
    exact absurd percent other

/-! ### Encodings -/

/-- Whether a character is a hexadecimal digit in upper case. -/
def isUpperHexDigit (c : Char) : Bool :=
  c.isDigit || ('A' ≤ c && c ≤ 'F')

/-- A text of letters and digits, of marks that stand for themselves, and of percent signs with two
hexadecimal digits each. -/
inductive IsPercentWritten (kept : List Char) : List Char → Prop
  /-- The empty text. -/
  | nil : IsPercentWritten kept []
  /-- A character that stands for itself. -/
  | character {c : Char} {rest : List Char} : c.isAlphanum = true ∨ c ∈ kept →
      IsPercentWritten kept rest → IsPercentWritten kept (c :: rest)
  /-- A percent sign with its digits. -/
  | octet {high low : Char} {rest : List Char} : isUpperHexDigit high = true →
      isUpperHexDigit low = true → IsPercentWritten kept rest →
      IsPercentWritten kept ('%' :: high :: low :: rest)

/-- The digits of percent encoding are hexadecimal digits in upper case. -/
theorem isUpperHexDigit_upperHexDigit : ∀ n < 16, isUpperHexDigit (upperHexDigit n) = true := by
  decide

/-- What stands for a byte can be written in front. -/
theorem IsPercentWritten.byte {kept rest : List Char} (written : IsPercentWritten kept rest)
    (byte : UInt8) : IsPercentWritten kept (percentByte byte ++ rest) := by
  have bound := byte.toNat_lt
  exact .octet (isUpperHexDigit_upperHexDigit _ (by omega))
    (isUpperHexDigit_upperHexDigit _ (by omega)) written

/-- An encoding by bytes in which letters, digits and some marks stand for themselves, and from
which the bytes of every text are read again. -/
structure IsPercentEncoding (kept : List Char) (encode : List Char → List Char) : Prop where
  /-- Every byte is written on its own. -/
  bytewise : ∀ text, encode text = (utf8Bytes text).flatMap (percentOctet kept)
  /-- Nothing else is written. -/
  written : ∀ text, IsPercentWritten kept (encode text)
  /-- The bytes of a text are decoded. -/
  bytes : ∀ text, percentDecode? (encode text) = some (utf8Bytes text)
  /-- The text is decoded. -/
  lossless : ∀ text : String, decodePercent? (encode text.toList) = some text

section Encoding

variable {kept : List Char} (allAscii : ∀ c ∈ kept, c.toNat < 128)

include allAscii

/-- What stands for a byte is a character that stands for itself, of which it is the only byte, or a
percent sign with two digits. -/
theorem percentOctet_cases (byte : UInt8) :
    (∃ c, percentOctet kept byte = [c] ∧ String.utf8EncodeChar c = [byte] ∧
      (c.isAlphanum = true ∨ c ∈ kept)) ∨
    percentOctet kept byte = percentByte byte := by
  by_cases beyond : 128 ≤ byte.toNat
  · exact .inr (percentOctet_of_beyond allAscii beyond)
  · have ascii : (Char.ofUInt8 byte).toNat < 128 := Nat.lt_of_not_le beyond
    have same : UInt8.ofNat (Char.ofUInt8 byte).toNat = byte := UInt8.ofNat_toNat
    unfold percentOctet
    split
    · rename_i stays
      rw [Bool.or_eq_true, List.contains_iff_mem, ← same, mem_utf8Bytes allAscii ascii,
        same] at stays
      refine .inl ⟨_, rfl, ?_, stays⟩
      rw [utf8EncodeChar_of_ascii ascii, same]
    · exact .inr rfl

/-- Bytes are written with the characters of the encoding. -/
theorem percentOctets_written (bytes : List UInt8) :
    IsPercentWritten kept (bytes.flatMap (percentOctet kept)) := by
  induction bytes with
  | nil => exact .nil
  | cons byte rest induction =>
    rw [List.flatMap_cons]
    rcases percentOctet_cases allAscii byte with ⟨c, written, -, stays⟩ | written
    · rw [written]
      exact .character stays induction
    · rw [written]
      exact induction.byte byte

/-- Bytes are decoded, unless the percent sign stands for itself. -/
theorem percentDecode?_octets (noPercent : '%' ∉ kept) (bytes : List UInt8) :
    percentDecode? (bytes.flatMap (percentOctet kept)) = some bytes := by
  induction bytes with
  | nil => rfl
  | cons byte rest induction =>
    rw [List.flatMap_cons]
    rcases percentOctet_cases allAscii byte with ⟨c, written, only, stays⟩ | written
    · have other : c ≠ '%' := by
        rintro rfl
        exact stays.elim (by decide) noPercent
      rw [written, List.singleton_append, percentDecode?_cons other, induction, only]
      rfl
    · rw [written, percentDecode?_byte, induction]
      rfl

/-- Percent encoding is undone by decoding, if the marks that stand for themselves are in ASCII and
the percent sign is none of them. -/
theorem isPercentEncoding (noPercent : '%' ∉ kept) :
    IsPercentEncoding kept (fun text => text.flatMap (percentCharacter kept)) where
  bytewise := percent_bytewise allAscii
  written text := by
    rw [percent_bytewise allAscii]
    exact percentOctets_written allAscii _
  bytes text := by
    rw [percent_bytewise allAscii]
    exact percentDecode?_octets allAscii noPercent _
  lossless text := by
    have whole : (utf8Bytes text.toList).toByteArray = text.toByteArray := String.utf8Encode_toList
    have valid : String.fromUTF8? text.toByteArray = some text := by
      rw [String.fromUTF8?, dif_pos text.isValidUTF8]
      rfl
    rw [percent_bytewise allAscii, decodePercent?, percentDecode?_octets allAscii noPercent]
    rw [Option.bind_eq_bind, Option.bind_some, whole, valid]

end Encoding

/-- The marks that stand for themselves are in ASCII. -/
theorem toNat_lt_of_mem_marks : ∀ c ∈ unreservedMarks ++ reservedMarks, c.toNat < 128 := by
  have all : (unreservedMarks ++ reservedMarks).all (·.toNat < 128) = true := by decide
  exact fun c mem => of_decide_eq_true (List.all_eq_true.mp all c mem)

/-- The filters `u` and `uc` write every byte of a text on its own: as its character if that is a
letter, a digit or a mark that stands for itself, and else as a percent sign and two digits. They
are decoded to the bytes of the text, and to the text, also if it holds percent signs. -/
theorem encodeUri_lossless :
    (IsPercentEncoding (unreservedMarks ++ reservedMarks) encodeUri ∧
      IsPercentEncoding unreservedMarks encodeUriComponent) ∧
    ∃ whole component, builtins.get? "u" = some whole ∧ builtins.get? "uc" = some component ∧
      ∀ text : String,
        whole (.string text) = .string (String.ofList (encodeUri text.toList)) ∧
        component (.string text) = .string (String.ofList (encodeUriComponent text.toList)) := by
  have unreserved : ∀ c ∈ unreservedMarks, c.toNat < 128 :=
    fun c mem => toNat_lt_of_mem_marks c (List.mem_append_left reservedMarks mem)
  refine ⟨⟨isPercentEncoding toNat_lt_of_mem_marks ?_, isPercentEncoding unreserved ?_⟩,
    onText encodeUri, onText encodeUriComponent, rfl, rfl, fun _ => ⟨rfl, rfl⟩⟩
  · decide
  · decide

example : encodeUri "%41 é".toList = "%2541%20%C3%A9".toList := by decide

end Dust.Filter
