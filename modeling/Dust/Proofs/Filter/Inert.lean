import Dust.Filter.Builtin
import Dust.Proofs.Json.Double

/-!
# Inert texts

A text is inert if it holds no character that ends a text or an attribute of HTML. What is escaped
for HTML is inert, whatever it was before, and the other filters for texts keep what is inert so.
Whatever a value is, it is written as an inert text unless it is a text itself.
-/

namespace Dust

/-- Whether a character ends a text or an attribute of HTML. -/
def isMarkup (c : Char) : Bool :=
  c = '<' || c = '>' || c = '"' || c = '\''

/-- There are four such characters. -/
theorem isMarkup_eq_false {c : Char} :
    isMarkup c = false ↔ c ≠ '<' ∧ c ≠ '>' ∧ c ≠ '"' ∧ c ≠ '\'' := by
  simp [isMarkup, and_assoc]

/-- No character of a text ends a text or an attribute of HTML. -/
def IsInert (text : List Char) : Prop :=
  ∀ c ∈ text, isMarkup c = false

instance (text : List Char) : Decidable (IsInert text) :=
  List.decidableBAll (fun c => isMarkup c = false) text

namespace IsInert

/-- Nothing is inert. -/
theorem nil : IsInert [] :=
  List.forall_mem_nil _

/-- A text is inert if its first character is no markup and the rest is inert. -/
theorem cons {c : Char} {text : List Char} (harmless : isMarkup c = false) (rest : IsInert text) :
    IsInert (c :: text) :=
  List.forall_mem_cons.mpr ⟨harmless, rest⟩

/-- Inert texts in a row are inert. -/
theorem append {front back : List Char} (first : IsInert front) (second : IsInert back) :
    IsInert (front ++ back) :=
  List.forall_mem_append.mpr ⟨first, second⟩

/-- A text is inert if what stands for each of its parts is. -/
theorem flatMap {α : Type} {parts : List α} {written : α → List Char}
    (each : ∀ part ∈ parts, IsInert (written part)) : IsInert (parts.flatMap written) := by
  intro c mem
  obtain ⟨part, isPart, inside⟩ := List.mem_flatMap.mp mem
  exact each part isPart c inside

/-- There is no quote in an inert text. -/
theorem quote_not_mem {text : List Char} (inert : IsInert text) : '"' ∉ text :=
  fun mem => Bool.noConfusion (inert '"' mem)

end IsInert

namespace Filter

/-! ### Filters for texts -/

/-- What is escaped for HTML is inert. -/
theorem escapeHtml_isInert (text : List Char) : IsInert (escapeHtml text) := by
  refine .flatMap fun c _ => ?_
  unfold htmlCharacter
  split
  case h_6 noAmpersand noLess noGreater noQuote noApostrophe =>
    exact .cons (isMarkup_eq_false.mpr ⟨noLess, noGreater, noQuote, noApostrophe⟩) .nil
  all_goals decide

/-- What is inert stays so when it is escaped for a script. -/
theorem escapeScript_isInert {text : List Char} (inert : IsInert text) :
    IsInert (escapeScript text) := by
  refine .flatMap fun c mem => ?_
  have harmless := inert c mem
  unfold scriptCharacter
  split
  case h_3 | h_4 => cases harmless
  case h_10 => exact .cons harmless .nil
  all_goals decide

/-- The digits of percent encoding are no markup. -/
theorem isMarkup_upperHexDigit : ∀ n < 16, isMarkup (upperHexDigit n) = false := by
  decide

/-- What stands for a byte is inert. -/
theorem percentByte_isInert (byte : UInt8) : IsInert (percentByte byte) := by
  have bound := byte.toNat_lt
  have high := isMarkup_upperHexDigit (byte.toNat / 16) (by omega)
  have low := isMarkup_upperHexDigit (byte.toNat % 16) (by omega)
  exact .cons rfl (.cons high (.cons low .nil))

/-- What is inert stays so with percent encoding. -/
theorem percent_isInert {text : List Char} (kept : List Char) (inert : IsInert text) :
    IsInert (text.flatMap (percentCharacter kept)) := by
  refine .flatMap fun c mem => ?_
  unfold percentCharacter
  split
  · exact .cons (inert c mem) .nil
  · exact .flatMap fun byte _ => percentByte_isInert byte

end Filter

/-! ### Values that are no texts -/

namespace Number

/-- No digit is markup. -/
theorem isMarkup_of_isDigit {c : Char} (digit : c.isDigit = true) : isMarkup c = false := by
  refine isMarkup_eq_false.mpr ⟨?_, ?_, ?_, ?_⟩
  all_goals
    rintro rfl
    cases digit

/-- A natural number is written as an inert text. -/
theorem natText_isInert (n : Nat) : IsInert (natText n) :=
  fun _ mem => isMarkup_of_isDigit (isDigit_of_mem_natText mem)

/-- Zeros are inert. -/
theorem zeros_isInert (count : Nat) : IsInert (zeros count) :=
  fun _ mem => isMarkup_of_isDigit (Json.Written.isDigit_of_mem_zeros mem)

/-- An integer is written as an inert text. -/
theorem intText_isInert (n : Int) : IsInert (intText n) := by
  cases n with
  | ofNat n => exact natText_isInert n
  | negSucc n => exact .cons rfl (natText_isInert (n + 1))

/-- A decimal in positional form is inert. -/
theorem positionalText_isInert (decimal : Decimal) : IsInert (positionalText [] decimal) := by
  have digits := natText_isInert decimal.digits
  unfold positionalText
  simp only
  split
  · exact .append (.append digits (zeros_isInert _)) .nil
  · have padded : IsInert (Json.Written.padded (-decimal.exponent).toNat
        (natText decimal.digits)) := .append (zeros_isInert _) digits
    exact .append (fun c mem => padded c (List.mem_of_mem_take mem))
      (.cons rfl fun c mem => padded c (List.mem_of_mem_drop mem))

/-- A double is written as an inert text. -/
theorem plain_isInert (x : Float) : IsInert (Layout.plain.text x) := by
  have sign (negative : Bool) : IsInert (Layout.text.signText negative) := by
    cases negative <;> decide
  unfold Layout.text
  split
  case h_1 => decide
  case h_2 => exact .append (sign _) (by decide)
  case h_3 =>
    split
    · exact .append (sign _) (by decide)
    · exact .append (sign _) (positionalText_isInert _)

end Number

namespace Value

/-- A value that is no text is written as an inert text. -/
theorem display_isInert {value : Value} (noText : value.text? = none) :
    IsInert value.display.toList := by
  cases value with
  | null | list | map => exact .nil
  | bool b => cases b <;> decide
  | integer n =>
    rw [display, String.toList_ofList]
    exact Number.intText_isInert n.toInt
  | float x =>
    rw [display, String.toList_ofList]
    exact Number.plain_isInert x
  | string text => cases noText

end Value

end Dust
