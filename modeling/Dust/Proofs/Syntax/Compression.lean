import Dust.Proofs.Syntax.Layout
import Dust.Proofs.Syntax.SpecialCharacters
import Dust.Proofs.Text.Split

/-!
# Compression line by line

Compression goes through a text character by character, and looks at the next one to tell a carriage
return that ends a line from any other. Said of lines it is a rule without looking ahead: every line
but the first loses its indentation, every line but the last loses one carriage return at its end,
and what is left is joined. Of several carriage returns in a row only the last one ends a line.
-/

namespace Dust

/-! ### Lines -/

/-- A line without its indentation. -/
def dropIndentation (line : List Char) : List Char :=
  line.dropWhile isIndentation

/-- A line without one carriage return at its end. -/
def dropReturn (line : List Char) : List Char :=
  if line.getLast? = some '\r' then line.dropLast else line

/-- Lines, where every one but the first is changed. -/
def changeLater (change : List Char → List Char) : List (List Char) → List (List Char)
  | [] => []
  | first :: later => first :: later.map change

/-- Lines, where every one but the last is changed. -/
def changeEarlier (change : List Char → List Char) : List (List Char) → List (List Char)
  | [] => []
  | [last] => [last]
  | line :: next :: later => change line :: changeEarlier change (next :: later)

/-- The lines of a text without their ends and the indentation after these, joined. -/
def compressLines (text : List Char) : List Char :=
  (changeEarlier dropReturn (changeLater dropIndentation (Text.splitAt '\n' text))).flatten

/-- The lines behind some point of a text, the first of which is indented or goes on. -/
def unindent (indented : Bool) (lines : List (List Char)) : List (List Char) :=
  if indented then lines.map dropIndentation else changeLater dropIndentation lines

/-! ### One more character -/

variable {line : List Char} {later : List (List Char)} {c : Char}

/-- A line that ends loses its carriage return. -/
theorem changeEarlier_cons (some : later ≠ []) (change : List Char → List Char) :
    changeEarlier change (line :: later) = change line :: changeEarlier change later := by
  cases later with
  | nil => exact absurd rfl some
  | cons next rest => rfl

/-- A line that does not end here loses the same carriage return with one more character in front,
unless this is the carriage return. -/
theorem dropReturn_cons (kept : line ≠ [] ∨ c ≠ '\r') :
    dropReturn (c :: line) = c :: dropReturn line := by
  cases line with
  | nil =>
    have other : c ≠ '\r' := kept.resolve_left (absurd rfl)
    simp [dropReturn, other]
  | cons next rest =>
    unfold dropReturn
    rw [List.getLast?_cons_cons, List.dropLast_cons_cons]
    split <;> rfl

/-- The first of some lines takes a character in front, unless this is a carriage return that ends
it. -/
theorem flatten_changeEarlier_cons (kept : later ≠ [] → line ≠ [] ∨ c ≠ '\r') :
    (changeEarlier dropReturn ((c :: line) :: later)).flatten =
      c :: (changeEarlier dropReturn (line :: later)).flatten := by
  by_cases last : later = []
  · subst last
    rfl
  · rw [changeEarlier_cons last, changeEarlier_cons last, dropReturn_cons (kept last)]
    rfl

/-- A carriage return that ends a line is dropped. -/
theorem flatten_changeEarlier_return (ends : later ≠ []) :
    (changeEarlier dropReturn (['\r'] :: later)).flatten =
      (changeEarlier dropReturn ([] :: later)).flatten := by
  rw [changeEarlier_cons ends, changeEarlier_cons ends]
  rfl

/-- The first line of a text ends before its first character exactly if this is a line feed. -/
theorem head?_eq_feed_iff {text : List Char} (pieces : Text.splitAt '\n' text = line :: later) :
    text.head? = some '\n' ↔ line = [] ∧ later ≠ [] := by
  cases text with
  | nil =>
    cases pieces
    simp
  | cons first rest =>
    unfold Text.splitAt at pieces
    split at pieces
    · rename_i feed
      cases pieces
      simp [feed, Text.splitAt_ne_nil]
    · rename_i other
      split at pieces
      · cases pieces
        simp [other]
      · cases pieces
        simp [other]

/-! ### Whole texts -/

/-- Compression from some point of a text on is that of the lines behind it. -/
theorem compressFrom_eq_lines (indented : Bool) (text : List Char) :
    compressFrom indented text =
      (changeEarlier dropReturn (unindent indented (Text.splitAt '\n' text))).flatten := by
  fun_induction compressFrom indented text with
  | case1 indented => cases indented <;> rfl
  | case2 indented c rest indentation induction =>
    obtain ⟨rfl, blank⟩ := indentation
    have other : c ≠ '\n' := by
      rintro rfl
      cases blank
    obtain ⟨line, later, pieces⟩ := List.exists_cons_of_ne_nil (Text.splitAt_ne_nil '\n' rest)
    rw [induction, Text.splitAt_cons_of_ne other pieces, pieces]
    simp [unindent, dropIndentation, blank]
  | case3 indented rest _ induction =>
    have ends := Text.splitAt_ne_nil '\n' rest
    have feed : Text.splitAt '\n' ('\n' :: rest) = [] :: Text.splitAt '\n' rest := by
      simp [Text.splitAt]
    have unindented : unindent indented ([] :: Text.splitAt '\n' rest) =
        [] :: unindent true (Text.splitAt '\n' rest) := by
      cases indented <;> rfl
    have kept : unindent true (Text.splitAt '\n' rest) ≠ [] := by simpa [unindent] using ends
    rw [induction, feed, unindented, changeEarlier_cons kept]
    rfl
  | case4 indented c rest notIndentation notFeed lineEnd induction =>
    obtain ⟨rfl, feed⟩ := lineEnd
    obtain ⟨line, later, pieces⟩ := List.exists_cons_of_ne_nil (Text.splitAt_ne_nil '\n' rest)
    obtain ⟨rfl, ends⟩ := (head?_eq_feed_iff pieces).mp feed
    have unindented : unindent indented (['\r'] :: later) =
        ['\r'] :: later.map dropIndentation := by
      cases indented <;> rfl
    rw [induction, Text.splitAt_cons_of_ne notFeed pieces, pieces, unindented,
      flatten_changeEarlier_return (by simpa using ends)]
    rfl
  | case5 indented c rest notIndentation notFeed notEnd induction =>
    obtain ⟨line, later, pieces⟩ := List.exists_cons_of_ne_nil (Text.splitAt_ne_nil '\n' rest)
    have unindented : unindent indented ((c :: line) :: later) =
        (c :: line) :: later.map dropIndentation := by
      cases indented with
      | false => rfl
      | true =>
        have solid : isIndentation c = false := by simpa using notIndentation
        simp [unindent, dropIndentation, solid]
    have kept : later.map dropIndentation ≠ [] → line ≠ [] ∨ c ≠ '\r' := by
      intro ends
      by_contra! both
      have feed := (head?_eq_feed_iff pieces).mpr ⟨both.1, by simpa using ends⟩
      exact notEnd ⟨both.2, feed⟩
    rw [induction, Text.splitAt_cons_of_ne notFeed pieces, pieces, unindented,
      flatten_changeEarlier_cons kept]
    rfl

/-- Compression leaves no line feed. -/
theorem feed_not_mem_compressFrom (indented : Bool) (text : List Char) :
    '\n' ∉ compressFrom indented text := by
  fun_induction compressFrom indented text with
  | case1 => simp
  | case2 _ _ _ _ induction => exact induction
  | case3 _ _ _ induction => exact induction
  | case4 _ _ _ _ _ _ induction => exact induction
  | case5 _ _ _ _ notFeed _ induction => simp [Ne.symm notFeed, induction]

/-- Compression is what its rule on lines says. So it leaves one line, which it would not change
again, and every character that is not layout in its order. -/
theorem compress_eq_compressLines (text : List Char) :
    compress text = compressLines text ∧
      '\n' ∉ compress text ∧
      compress (compress text) = compress text ∧
      withoutLayout (compress text) = withoutLayout text := by
  have line : '\n' ∉ compress text := feed_not_mem_compressFrom false text
  exact ⟨compressFrom_eq_lines false text, line, compress_eq_self line,
    withoutLayout_compressFrom false text⟩

/-- Of two carriage returns one ends the line, a line of blank space leaves nothing, and the last
line keeps its end. -/
example : compressLines "a\r\r\n \t\r\n  b \r".toList = "a\rb \r".toList := by decide

end Dust
