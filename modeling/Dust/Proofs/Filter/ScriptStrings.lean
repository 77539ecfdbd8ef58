import Dust.Filter.Builtin
import Mathlib.Algebra.Ring.Parity
import Mathlib.Data.List.DropRight

/-!
# Strings of scripts

What is escaped for a script can stand between quotes of either kind, and is read back as what it
was. Whether a quote ends the string depends on the backslashes directly before it: two of them are
one that is meant, so the quote is escaped if there is an odd number of them. Escaping puts one
backslash more before every mark, behind a text in which backslashes stand in pairs.
-/

namespace Dust.Filter

/-! ### Reading strings -/

/-- The character of an escape of a script. There is one more than in JSON. -/
def scriptEscape? (c : Char) : Option Char :=
  if c = '\'' then some '\'' else Json.escapedChar? c

/-- Reads a string of a script behind its opening quote: what it says, and what stands behind its
closing quote. There is no string if it has no end, if it has an escape that is not known, or if it
goes on over a line. -/
def readScriptString? (quote : Char) : List Char → Option (List Char × List Char)
  | [] => none
  | '\\' :: escape :: rest => do
    let c ← scriptEscape? escape
    let (text, behind) ← readScriptString? quote rest
    some (c :: text, behind)
  | c :: rest =>
    if c = quote then some ([], rest)
    else if c = '\\' ∨ c = '\n' ∨ c = '\r' then none
    else do
      let (text, behind) ← readScriptString? quote rest
      some (c :: text, behind)

/-- An escape is read as its character. -/
theorem readScriptString?_escape {quote escape c : Char} {rest text behind : List Char}
    (escapes : scriptEscape? escape = some c)
    (reads : readScriptString? quote rest = some (text, behind)) :
    readScriptString? quote ('\\' :: escape :: rest) = some (c :: text, behind) := by
  simp [readScriptString?, escapes, reads]

/-- A character that needs no escape is read as itself. -/
theorem readScriptString?_plain {quote c : Char} {rest text behind : List Char}
    (other : c ≠ quote) (plain : c ≠ '\\' ∧ c ≠ '\n' ∧ c ≠ '\r')
    (reads : readScriptString? quote rest = some (text, behind)) :
    readScriptString? quote (c :: rest) = some (c :: text, behind) := by
  rw [readScriptString?]
  · simp [other, plain, reads]
  · intro _ _ backslash
    exact absurd backslash plain.1

/-- A closing quote ends a string. -/
theorem readScriptString?_quote {quote : Char} (noBackslash : quote ≠ '\\') (behind : List Char) :
    readScriptString? quote (quote :: behind) = some ([], behind) := by
  rw [readScriptString?]
  · simp
  · intro _ _ backslash
    exact absurd backslash noBackslash

/-! ### Escaped characters -/

/-- The quotes that a string of a script stands between. -/
def scriptQuotes : List Char :=
  ['"', '\'']

/-- The characters that end a string of a script, or the script, where they are not escaped. -/
def scriptMarks : List Char :=
  '/' :: scriptQuotes

/-- The control characters that have an escape in a script. -/
def scriptControls : List Char :=
  ['\n', '\r', '\t', '\x08', '\x0c']

/-- A character is written as its escape, or as it is if it has none. What has none is no mark, no
such control character and no backslash. -/
theorem scriptCharacter_cases (c : Char) :
    (∃ escape, scriptCharacter c = ['\\', escape] ∧ scriptEscape? escape = some c ∧
      escape ∉ scriptControls) ∨
    scriptCharacter c = [c] ∧ c ∉ scriptMarks ∧ c ∉ scriptControls ∧ c ≠ '\\' := by
  unfold scriptCharacter
  split
  case h_10 backslash slash apostrophe quote line return' tab back feed =>
    refine .inr ⟨rfl, ?_, ?_, backslash⟩
    · simp only [scriptMarks, scriptQuotes, List.mem_cons, List.not_mem_nil, or_false, not_or]
      exact ⟨slash, quote, apostrophe⟩
    · simp only [scriptControls, List.mem_cons, List.not_mem_nil, or_false, not_or]
      exact ⟨line, return', tab, back, feed⟩
  all_goals exact .inl ⟨_, rfl, rfl, by decide⟩

/-- What is escaped for a script is read between quotes as what it was, up to the closing quote. -/
theorem readScriptString?_escapeScript {quote : Char} (mem : quote ∈ scriptQuotes)
    (text behind : List Char) :
    readScriptString? quote (escapeScript text ++ quote :: behind) = some (text, behind) := by
  induction text with
  | nil =>
    have noBackslash : quote ≠ '\\' := by
      rintro rfl
      exact absurd mem (by decide)
    exact readScriptString?_quote noBackslash behind
  | cons c rest induction =>
    rw [escapeScript, List.flatMap_cons, List.append_assoc, ← escapeScript]
    rcases scriptCharacter_cases c with
      ⟨escape, written, escapes, -⟩ | ⟨same, noMark, noControl, plain⟩
    · rw [written]
      exact readScriptString?_escape escapes induction
    · rw [same]
      refine readScriptString?_plain ?_ ⟨plain, ?_, ?_⟩ induction
      · rintro rfl
        exact noMark (List.mem_cons_of_mem _ mem)
      · rintro rfl
        exact noControl (by decide)
      · rintro rfl
        exact noControl (by decide)

/-- No control character that has an escape is left in what is escaped for a script. -/
theorem escapeScript_noControl (text : List Char) :
    ∀ c ∈ escapeScript text, c ∉ scriptControls := by
  intro c mem
  obtain ⟨original, -, inside⟩ := List.mem_flatMap.mp mem
  rcases scriptCharacter_cases original with
    ⟨escape, written, -, harmless⟩ | ⟨same, -, harmless, -⟩
  · rw [written, List.mem_cons, List.mem_singleton] at inside
    rcases inside with rfl | rfl
    · decide
    · exact harmless
  · rw [same, List.mem_singleton] at inside
    rwa [inside]

/-! ### Runs of backslashes -/

/-- The number of backslashes that a text ends with. -/
def trailingBackslashes (text : List Char) : Nat :=
  (text.rtakeWhile (· = '\\')).length

/-- One more backslash goes on with those at the end. -/
theorem trailingBackslashes_backslash (text : List Char) :
    trailingBackslashes (text ++ ['\\']) = trailingBackslashes text + 1 := by
  simp [trailingBackslashes, List.rtakeWhile_concat_pos]

/-- Behind another character there are no backslashes. -/
theorem trailingBackslashes_other (text : List Char) {c : Char} (other : c ≠ '\\') :
    trailingBackslashes (text ++ [c]) = 0 := by
  simp [trailingBackslashes, List.rtakeWhile_concat_neg, other]

/-- Every mark of a text is escaped: directly before it stands an odd number of backslashes. At the
end of the text stands an even number of them, so that what follows is not escaped. -/
structure IsGuarded (text : List Char) : Prop where
  /-- Marks are escaped. -/
  marks : ∀ front c back, text = front ++ c :: back → c ∈ scriptMarks →
    Odd (trailingBackslashes front)
  /-- The end is not escaped. -/
  last : Even (trailingBackslashes text)

namespace IsGuarded

variable {text : List Char}

/-- There is no mark in an empty text. -/
theorem nil : IsGuarded [] where
  marks _ _ _ same _ := by simp at same
  last := by decide

/-- What stands in a text with one more character stands in the text, or is that character. -/
theorem eq_or_of_concat {front back : List Char} {c last : Char}
    (same : text ++ [last] = front ++ c :: back) :
    (∃ rest, text = front ++ c :: rest) ∨ front = text ∧ c = last := by
  rcases List.eq_nil_or_concat back with rfl | ⟨rest, other, rfl⟩
  · exact .inr (by simpa [eq_comm] using List.append_inj' same rfl)
  · rw [List.concat_eq_append, ← List.cons_append, ← List.append_assoc] at same
    exact .inl ⟨rest, (List.append_inj' same rfl).1⟩

/-- A character that needs no escape can follow. -/
theorem plain (guarded : IsGuarded text) {c : Char} (noMark : c ∉ scriptMarks)
    (noBackslash : c ≠ '\\') : IsGuarded (text ++ [c]) where
  marks front mark back same mem := by
    rcases eq_or_of_concat same with ⟨rest, inside⟩ | ⟨-, rfl⟩
    · exact guarded.marks front mark rest inside mem
    · exact absurd mem noMark
  last := by
    rw [trailingBackslashes_other text noBackslash]
    exact Even.zero

/-- An escape can follow. -/
theorem escape (guarded : IsGuarded text) (escape : Char) : IsGuarded (text ++ ['\\', escape]) where
  marks front mark back same mem := by
    rw [show text ++ ['\\', escape] = (text ++ ['\\']) ++ [escape] by simp] at same
    rcases eq_or_of_concat same with ⟨rest, inside⟩ | ⟨rfl, -⟩
    · rcases eq_or_of_concat inside with ⟨rest, inside⟩ | ⟨-, rfl⟩
      · exact guarded.marks front mark rest inside mem
      · exact absurd mem (by decide)
    · rw [trailingBackslashes_backslash]
      exact guarded.last.add_one
  last := by
    rw [show text ++ ['\\', escape] = (text ++ ['\\']) ++ [escape] by simp]
    by_cases backslash : escape = '\\'
    · rw [backslash, trailingBackslashes_backslash, trailingBackslashes_backslash]
      exact guarded.last.add_one.add_one
    · rw [trailingBackslashes_other _ backslash]
      exact Even.zero

/-- A text whose slashes are escaped cannot end a script. -/
theorem noEndTag (guarded : IsGuarded text) : ¬ ['<', '/'] <:+: text := by
  rintro ⟨front, back, same⟩
  have odd := guarded.marks (front ++ ['<']) '/' back (by rw [← same]; simp) (by decide)
  rw [trailingBackslashes_other front (by decide)] at odd
  exact absurd odd (by decide)

end IsGuarded

/-- All marks are escaped in what is escaped for a script, whatever backslashes stand before them in
the text. -/
theorem escapeScript_isGuarded (text : List Char) : IsGuarded (escapeScript text) := by
  -- The backslashes before a mark are at the end of what comes before it, so the text grows there.
  induction text using List.reverseRecOn with
  | nil => exact .nil
  | append_singleton front c induction =>
    have split : escapeScript (front ++ [c]) = escapeScript front ++ scriptCharacter c := by
      simp [escapeScript]
    rw [split]
    rcases scriptCharacter_cases c with
      ⟨escape, written, -, -⟩ | ⟨same, noMark, -, noBackslash⟩
    · rw [written]
      exact induction.escape escape
    · rw [same]
      exact induction.plain noMark noBackslash

example : escapeScript "\\\"</".toList = "\\\\\\\"<\\/".toList := by decide

/-- The filter `j` makes of a text one that can stand between quotes of either kind in a script: it
is read there as the text that it was, up to the closing quote. It holds no control character that
has an escape, every quote and slash in it is escaped, and it does not end a script. -/
theorem escapeScript_lossless :
    (∀ text : List Char,
      (∀ quote ∈ scriptQuotes, ∀ behind,
        readScriptString? quote (escapeScript text ++ quote :: behind) = some (text, behind)) ∧
      (∀ c ∈ escapeScript text, c ∉ scriptControls) ∧
      IsGuarded (escapeScript text) ∧
      ¬ ['<', '/'] <:+: escapeScript text) ∧
    ∃ escape, builtins.get? "j" = some escape ∧
      ∀ text : String,
        escape (.string text) = .string (String.ofList (escapeScript text.toList)) := by
  refine ⟨fun text => ⟨fun quote mem behind => readScriptString?_escapeScript mem text behind,
    escapeScript_noControl text, escapeScript_isGuarded text,
    (escapeScript_isGuarded text).noEndTag⟩, onText escapeScript, rfl, fun _ => rfl⟩

end Dust.Filter
