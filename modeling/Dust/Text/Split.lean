/-!
# Splitting texts

A text is split at every mark, which is not part of a piece. There is one piece more than there are
marks.
-/

namespace Dust.Text

/-- The pieces of a text between marks. -/
def splitAt (mark : Char) : List Char → List (List Char)
  | [] => [[]]
  | c :: rest =>
    if c = mark then [] :: splitAt mark rest
    else
      match splitAt mark rest with
      | [] => [[c]]
      | piece :: more => (c :: piece) :: more

/-- A text has at least one piece. -/
theorem splitAt_ne_nil (mark : Char) (text : List Char) : splitAt mark text ≠ [] := by
  cases text with
  | nil => simp [splitAt]
  | cons c rest =>
    unfold splitAt
    split
    · simp
    · split <;> simp

end Dust.Text
