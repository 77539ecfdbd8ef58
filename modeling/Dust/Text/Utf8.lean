/-!
# Texts by bytes

Places in a template are counted in the bytes of its UTF-8 form. A text can be cut only between two
characters.
-/

namespace Dust.Text

/-- The number of bytes of a text. -/
def byteSize (text : List Char) : Nat :=
  text.foldr (fun c size => c.utf8Size + size) 0

/-- The first bytes of a text and the rest, if the text is long enough and the cut does not go
through a character. -/
def splitBytes? : Nat → List Char → Option (List Char × List Char)
  | 0, text => some ([], text)
  | _ + 1, [] => none
  | bytes + 1, c :: rest =>
    if c.utf8Size ≤ bytes + 1 then do
      let (front, back) ← splitBytes? (bytes + 1 - c.utf8Size) rest
      some (c :: front, back)
    else none

/-- The bytes of a text from one place up to another, if both are between two characters. -/
def slice? (text : List Char) (start stop : Nat) : Option (List Char) :=
  if start ≤ stop then do
    let (_, back) ← splitBytes? start text
    let (inside, _) ← splitBytes? (stop - start) back
    some inside
  else none

/-- A text without characters has no bytes. -/
theorem byteSize_nil : byteSize [] = 0 := rfl

/-- The bytes of a text with one more character in front. -/
theorem byteSize_cons (c : Char) (rest : List Char) :
    byteSize (c :: rest) = c.utf8Size + byteSize rest := rfl

/-- The bytes of two texts in a row. -/
theorem byteSize_append (front back : List Char) :
    byteSize (front ++ back) = byteSize front + byteSize back := by
  induction front with
  | nil => simp [byteSize_nil]
  | cons c rest induction =>
    rw [List.cons_append, byteSize_cons, byteSize_cons, induction, Nat.add_assoc]

/-- Cutting where one text ends and the next begins gives both back. -/
theorem splitBytes?_append (front back : List Char) :
    splitBytes? (byteSize front) (front ++ back) = some (front, back) := by
  induction front with
  | nil => simp [byteSize_nil, splitBytes?]
  | cons c rest induction =>
    have positive := c.utf8Size_pos
    rw [byteSize_cons]
    obtain ⟨size, written⟩ : ∃ size, c.utf8Size + byteSize rest = size + 1 :=
      ⟨c.utf8Size + byteSize rest - 1, by omega⟩
    have left : size + 1 - c.utf8Size = byteSize rest := by omega
    have fits : c.utf8Size ≤ size + 1 := by omega
    simp [written, splitBytes?, fits, left, induction]

end Dust.Text
