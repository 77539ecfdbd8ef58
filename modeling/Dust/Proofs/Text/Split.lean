import Dust.Text.Split
import Mathlib.Data.List.Infix

/-!
# Pieces between marks

A text is told by its pieces, in which no marks stand. What is put in front of a text up to a mark
belongs to its first piece, and what the text ends with are its last pieces if it begins behind a
mark.
-/

namespace Dust.Text

variable {mark : Char} {text piece : List Char} {more : List (List Char)}

/-! ### Splitting texts that are put together -/

/-- What is in front of a text without being a mark is in its first piece. -/
theorem splitAt_cons_of_ne {c : Char} (other : c ≠ mark)
    (pieces : splitAt mark text = piece :: more) :
    splitAt mark (c :: text) = (c :: piece) :: more := by
  simp only [splitAt, if_neg other, pieces]

/-- A text without marks is one piece. -/
theorem splitAt_of_notMem {mark : Char} {text : List Char} (free : mark ∉ text) :
    splitAt mark text = [text] := by
  induction text with
  | nil => rfl
  | cons c rest induction =>
    have differ : c ≠ mark := fun same => free (same ▸ List.mem_cons_self)
    exact splitAt_cons_of_ne differ (induction fun mem => free (List.mem_cons_of_mem _ mem))

/-- What stands before the first mark belongs to the first piece. -/
theorem splitAt_append {mark : Char} {front text first : List Char} {more : List (List Char)}
    (free : mark ∉ front) (pieces : splitAt mark text = first :: more) :
    splitAt mark (front ++ text) = (front ++ first) :: more := by
  induction front with
  | nil => exact pieces
  | cons c rest induction =>
    have differ : c ≠ mark := fun same => free (same ▸ List.mem_cons_self)
    exact splitAt_cons_of_ne differ (induction fun mem => free (List.mem_cons_of_mem _ mem))

/-- An ending without marks is the ending of the last piece. -/
theorem splitAt_ending {mark : Char} {front ending : List Char} (free : mark ∉ ending) :
    ∃ pieces last, splitAt mark (front ++ ending) = pieces ++ [last] ∧ ending <:+ last := by
  induction front with
  | nil => exact ⟨[], ending, splitAt_of_notMem free, List.suffix_rfl⟩
  | cons c rest induction =>
    obtain ⟨pieces, last, split, isEnding⟩ := induction
    by_cases same : c = mark
    · exact ⟨[] :: pieces, last, by simp [splitAt, same, split], isEnding⟩
    · cases pieces with
      | nil =>
        exact ⟨[], c :: last, splitAt_cons_of_ne same split,
          isEnding.trans (List.suffix_cons _ _)⟩
      | cons piece more =>
        exact ⟨(c :: piece) :: more, last, splitAt_cons_of_ne same split, isEnding⟩

/-- A mark divides the pieces of a text. -/
theorem splitAt_mark (mark : Char) (front back : List Char) :
    splitAt mark (front ++ mark :: back) = splitAt mark front ++ splitAt mark back := by
  induction front with
  | nil => simp [splitAt]
  | cons c rest induction =>
    by_cases same : c = mark
    · simp only [List.cons_append, splitAt, if_pos same, induction]
    · obtain ⟨first, later, pieces⟩ := List.exists_cons_of_ne_nil (splitAt_ne_nil mark rest)
      rw [pieces, List.cons_append] at induction
      rw [List.cons_append, splitAt_cons_of_ne same induction, splitAt_cons_of_ne same pieces,
        List.cons_append]

/-- What is in a text is a mark or in one of its pieces. -/
theorem mem_of_splitAt (mark : Char) {c : Char} {text : List Char} (mem : c ∈ text) :
    c = mark ∨ ∃ piece ∈ splitAt mark text, c ∈ piece := by
  induction text with
  | nil => cases mem
  | cons first rest induction =>
    obtain ⟨piece, more, pieces⟩ := List.exists_cons_of_ne_nil (splitAt_ne_nil mark rest)
    rw [pieces] at induction
    by_cases same : first = mark
    · simp only [splitAt, if_pos same]
      rcases List.mem_cons.mp mem with rfl | behind
      · exact .inl same
      · rcases induction behind with isMark | ⟨part, isPiece, inside⟩
        · exact .inl isMark
        · exact .inr ⟨part, List.mem_cons_of_mem _ (pieces ▸ isPiece), inside⟩
    · rw [splitAt_cons_of_ne same pieces]
      rcases List.mem_cons.mp mem with rfl | behind
      · exact .inr ⟨_, List.mem_cons_self, List.mem_cons_self⟩
      · rcases induction behind with isMark | ⟨part, isPiece, inside⟩
        · exact .inl isMark
        · rcases List.mem_cons.mp isPiece with rfl | isPiece
          · exact .inr ⟨_, List.mem_cons_self, List.mem_cons_of_mem _ inside⟩
          · exact .inr ⟨part, List.mem_cons_of_mem _ isPiece, inside⟩

/-! ### Texts of pieces -/

/-- A text that is one piece has no marks. -/
theorem splitAt_eq_singleton (pieces : splitAt mark text = [piece]) :
    text = piece ∧ mark ∉ piece := by
  induction text generalizing piece with
  | nil =>
    cases pieces
    exact ⟨rfl, List.not_mem_nil⟩
  | cons c rest induction =>
    unfold splitAt at pieces
    split at pieces
    · exact absurd (List.cons.inj pieces).2 (splitAt_ne_nil _ _)
    · rename_i other
      split at pieces
      · rename_i none
        exact absurd none (splitAt_ne_nil _ _)
      · rename_i first later behind
        cases pieces
        obtain ⟨rfl, free⟩ := induction behind
        exact ⟨rfl, by simp [Ne.symm other, free]⟩

/-- Between the first two pieces of a text stands a mark. -/
theorem splitAt_eq_cons_cons {next : List Char}
    (pieces : splitAt mark text = piece :: next :: more) :
    ∃ back, text = piece ++ mark :: back ∧ splitAt mark back = next :: more ∧ mark ∉ piece := by
  induction text generalizing piece with
  | nil => cases pieces
  | cons c rest induction =>
    unfold splitAt at pieces
    split at pieces
    · rename_i same
      obtain ⟨rfl, behind⟩ := List.cons.inj pieces
      exact ⟨rest, by simp [same], behind, List.not_mem_nil⟩
    · rename_i other
      split at pieces
      · cases pieces
      · rename_i first later behind
        cases pieces
        obtain ⟨back, rfl, split, free⟩ := induction behind
        exact ⟨back, rfl, split, by simp [Ne.symm other, free]⟩

/-- Pieces tell the text. -/
theorem splitAt_injective (mark : Char) : Function.Injective (splitAt mark) := by
  suffices same : ∀ pieces, ∀ text other, splitAt mark text = pieces → splitAt mark other = pieces →
      text = other from fun text other equal => same _ text other equal rfl
  intro pieces
  induction pieces with
  | nil => exact fun text _ none => absurd none (splitAt_ne_nil mark text)
  | cons piece more induction =>
    intro text other first second
    cases more with
    | nil => rw [(splitAt_eq_singleton first).1, (splitAt_eq_singleton second).1]
    | cons next more =>
      obtain ⟨back, rfl, split, -⟩ := splitAt_eq_cons_cons first
      obtain ⟨rest, rfl, again, -⟩ := splitAt_eq_cons_cons second
      rw [induction back rest split again]

/-- The last pieces of a text, unless these are all, are those of a text behind a mark. -/
theorem splitAt_eq_append {front back : List (List Char)}
    (pieces : splitAt mark text = front ++ back) (some : front ≠ []) (rest : back ≠ []) :
    ∃ before after, text = before ++ mark :: after ∧ splitAt mark after = back := by
  induction front generalizing text with
  | nil => exact absurd rfl some
  | cons piece front induction =>
    obtain ⟨next, more, behind⟩ : ∃ next more, front ++ back = next :: more :=
      List.exists_cons_of_ne_nil (by simp [rest])
    rw [List.cons_append, behind] at pieces
    obtain ⟨after, rfl, split, -⟩ := splitAt_eq_cons_cons pieces
    rw [← behind] at split
    by_cases last : front = []
    · subst last
      exact ⟨piece, after, rfl, split⟩
    · obtain ⟨before, end', rfl, same⟩ := induction split last
      exact ⟨piece ++ mark :: before, end', by simp, same⟩

/-- A text ends with a mark and another text exactly if it ends with the pieces of this one, and has
others before. -/
theorem mark_cons_suffix_iff (mark : Char) (text ending : List Char) :
    mark :: ending <:+ text ↔ splitAt mark ending <:+ (splitAt mark text).tail := by
  constructor
  · rintro ⟨front, rfl⟩
    obtain ⟨first, later, pieces⟩ := List.exists_cons_of_ne_nil (splitAt_ne_nil mark front)
    rw [splitAt_mark, pieces]
    exact List.suffix_append _ _
  · rintro ⟨later, same⟩
    obtain ⟨first, rest, pieces⟩ := List.exists_cons_of_ne_nil (splitAt_ne_nil mark text)
    have split : splitAt mark text = (first :: later) ++ splitAt mark ending := by
      rw [List.cons_append, same, pieces, List.tail_cons]
    obtain ⟨before, after, rfl, again⟩ :=
      splitAt_eq_append split (List.cons_ne_nil _ _) (splitAt_ne_nil _ _)
    rw [splitAt_injective mark again]
    exact List.suffix_append _ _

end Dust.Text
