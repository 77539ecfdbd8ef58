import Dust.Json.Reader

/-!
# Reading quoted strings back

What is written of a text between quotes is read as far as the closing quote, and spells the text.
A character is written in one of three forms, and each reader is followed through these alone.
-/

namespace Dust.Json

/-- The forms in which a character is written between quotes. -/
inductive QuotedForm : Char → List Char → Prop where
  /-- A backslash and a letter. -/
  | letter {c letter : Char} (escaped : escapedChar? letter = some c) (short : letter ≠ 'u') :
      QuotedForm c ['\\', letter]
  /-- A backslash and the number of a control character. -/
  | code {c : Char} (control : c.toNat < 0x20) :
      QuotedForm c ['\\', 'u', '0', '0', hexDigit (c.toNat / 16), hexDigit (c.toNat % 16)]
  /-- The character itself. -/
  | plain {c : Char} (noQuote : c ≠ '"') (noEscape : c ≠ '\\') (noControl : ¬ c.toNat < 0x20) :
      QuotedForm c [c]

/-- A character is written in one of the forms. -/
theorem quotedForm_quoteChar (c : Char) : QuotedForm c (quoteChar c) := by
  unfold quoteChar
  split
  · exact .letter rfl (by decide)
  · exact .letter rfl (by decide)
  · exact .letter rfl (by decide)
  · exact .letter rfl (by decide)
  · exact .letter rfl (by decide)
  · exact .letter rfl (by decide)
  · exact .letter rfl (by decide)
  · rename_i noQuote noEscape _ _ _ _ _
    split
    · rename_i control
      exact .code control
    · rename_i noControl
      exact .plain noQuote noEscape noControl

/-- Four digits of a control character spell its number. -/
theorem hexUnit?_control {n : Nat} (control : n < 0x20) :
    hexUnit? '0' '0' (hexDigit (n / 16)) (hexDigit (n % 16)) = some n := by
  have all : ∀ n : Fin 0x20,
      hexUnit? '0' '0' (hexDigit (n / 16)) (hexDigit (n % 16)) = some n.val := by decide
  exact all ⟨n, control⟩

/-- A character that is written spells itself in front of what is spelled behind it. -/
theorem unquote?_form {c : Char} {form : List Char} (isForm : QuotedForm c form)
    (rest : List Char) : unquote? (form ++ rest) = (unquote? rest).map (c :: ·) := by
  cases isForm with
  | letter escaped short =>
    simp only [List.cons_append, List.nil_append]
    rw [unquote?]
    · cases unquote? rest <;> simp [escaped]
    · exact fun _ _ _ _ _ isCode => absurd isCode short
  | code control =>
    have spelled := hexUnit?_control control
    have high : isHighSurrogate c.toNat = false := by
      simp only [isHighSurrogate, Bool.and_eq_false_iff, decide_eq_false_iff_not]
      omega
    have low : isLowSurrogate c.toNat = false := by
      simp only [isLowSurrogate, Bool.and_eq_false_iff, decide_eq_false_iff_not]
      omega
    simp only [List.cons_append, List.nil_append]
    rw [unquote?.eq_def]
    simp only [spelled, high, low, Option.bind_eq_bind, Option.bind_some, Bool.false_eq_true,
      if_false, Char.ofNat_toNat]
    cases unquote? rest <;> rfl
  | plain noQuote noEscape noControl =>
    simp only [List.cons_append, List.nil_append]
    rw [unquote?]
    · rw [if_neg (by simp only [not_or]; exact ⟨noQuote, noEscape, noControl⟩)]
      cases unquote? rest <;> rfl
    · exact fun _ _ _ _ _ isEscape => absurd isEscape noEscape
    · exact fun _ _ isEscape => absurd isEscape noEscape

/-- What is written of a text spells the text. -/
theorem unquote?_quote (text : List Char) : unquote? (quote text) = some text := by
  induction text with
  | nil => rfl
  | cons c rest induction =>
    change unquote? (quoteChar c ++ quote rest) = _
    rw [unquote?_form (quotedForm_quoteChar c), induction]
    rfl

/-- A character that is written is read in front of what is read behind it. -/
theorem readQuoted_form {c : Char} {form : List Char} (isForm : QuotedForm c form)
    (rest : List Char) :
    readQuoted (form ++ rest) = (readQuoted rest).map fun read => (form ++ read.1, read.2) := by
  cases isForm with
  | letter escaped short =>
    simp only [List.cons_append, List.nil_append]
    rw [readQuoted]
    · cases readQuoted rest <;> simp [escaped]
    · exact fun _ _ _ _ _ isCode => absurd isCode short
  | code control =>
    simp only [List.cons_append, List.nil_append]
    rw [readQuoted.eq_def]
    simp only [hexUnit?_control control, Option.bind_eq_bind, Option.bind_some]
    cases readQuoted rest <;> rfl
  | plain noQuote noEscape noControl =>
    simp only [List.cons_append, List.nil_append]
    rw [readQuoted]
    · rw [if_neg (by simp only [not_or]; exact ⟨noEscape, noControl⟩)]
      cases readQuoted rest <;> rfl
    · exact noQuote
    · exact fun _ _ _ _ _ isEscape => absurd isEscape noEscape
    · exact fun _ _ isEscape => absurd isEscape noEscape

/-- What is written of a text is read as far as the closing quote. -/
theorem readQuoted_quote (text rest : List Char) :
    readQuoted (quote text ++ '"' :: rest) = some (quote text, rest) := by
  induction text with
  | nil => rfl
  | cons c more induction =>
    change readQuoted ((quoteChar c ++ quote more) ++ '"' :: rest) = some (quoteChar c ++ _, _)
    rw [List.append_assoc, readQuoted_form (quotedForm_quoteChar c), induction]
    rfl

end Dust.Json
