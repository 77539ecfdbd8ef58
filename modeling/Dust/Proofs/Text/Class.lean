/-!
# Runs of characters of a class

A reader takes the characters of a class off the front of a text. It takes a text of the class as a
whole if what follows does not belong to the class.
-/

namespace Dust

/-- The next character, if there is one, does not belong to a class. -/
def Stops (inClass : Char → Bool) (later : List Char) : Prop :=
  ∀ c ∈ later.head?, inClass c = false

/-- A text whose first character does not belong to a class. -/
theorem Stops.cons {inClass : Char → Bool} {first : Char} {rest : List Char}
    (other : inClass first = false) : Stops inClass (first :: rest) := by
  intro c next
  cases next
  exact other

/-- What does not belong to a class still does not with a text behind it that does not. -/
theorem Stops.append {inClass : Char → Bool} {front back : List Char}
    (first : Stops inClass front) (second : Stops inClass back) :
    Stops inClass (front ++ back) := by
  cases front with
  | nil => exact second
  | cons c rest => exact first

section Before

variable {inClass : Char → Bool} {text later : List Char} (stops : Stops inClass later)

include stops

/-- Characters of a class are taken as far before a text that does not go on with them as at the
end. -/
theorem takeWhile_before : (text ++ later).takeWhile inClass = text.takeWhile inClass := by
  induction text with
  | nil =>
    cases later with
    | nil => rfl
    | cons c rest =>
      have stop : inClass c = false := stops c rfl
      simp [stop]
  | cons c rest induction =>
    rw [List.cons_append, List.takeWhile_cons, List.takeWhile_cons, induction]

/-- Behind the characters of a class the rest is followed by a text that does not go on with
them. -/
theorem dropWhile_before : (text ++ later).dropWhile inClass = text.dropWhile inClass ++ later := by
  induction text with
  | nil =>
    cases later with
    | nil => rfl
    | cons c rest =>
      have stop : inClass c = false := stops c rfl
      simp [stop]
  | cons c rest induction =>
    rw [List.cons_append, List.dropWhile_cons, List.dropWhile_cons, induction]
    split <;> simp

end Before

/-- A text of a class ends where the next character does not belong to it. -/
theorem takeWhile_append_of_stops {inClass : Char → Bool} {text later : List Char}
    (all : ∀ c ∈ text, inClass c = true) (stops : Stops inClass later) :
    (text ++ later).takeWhile inClass = text := by
  have whole : (text ++ []).takeWhile inClass = text ++ [] := List.takeWhile_append_of_pos all
  rw [takeWhile_before stops]
  simpa using whole

/-- Behind a text of a class the rest is what does not begin with a character of it. -/
theorem dropWhile_append_of_stops {inClass : Char → Bool} {text later : List Char}
    (all : ∀ c ∈ text, inClass c = true) (stops : Stops inClass later) :
    (text ++ later).dropWhile inClass = later := by
  have whole : (text ++ []).dropWhile inClass = [] := List.dropWhile_append_of_pos all
  rw [dropWhile_before stops]
  simpa using whole

/-- The code points of the digits. -/
theorem toNat_of_isDigit {c : Char} (digit : c.isDigit = true) :
    48 ≤ c.toNat ∧ c.toNat ≤ 57 := by
  simp only [Char.isDigit, Bool.and_eq_true, decide_eq_true_eq, ge_iff_le,
    UInt32.le_iff_toNat_le] at digit
  exact digit

end Dust
