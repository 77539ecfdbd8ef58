/-!
# Lines

A line ends with a line feed or with the text.
-/

namespace Dust.Text

/-- The lines of a text without the line feeds that end them. -/
def lines : List Char → List (List Char)
  | [] => []
  | c :: rest =>
    if c = '\n' then [] :: lines rest
    else
      match lines rest with
      | [] => [[c]]
      | line :: more => (c :: line) :: more

end Dust.Text
