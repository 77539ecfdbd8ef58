import Dust.Proofs.Syntax.RoundTrip

/-!
# Plain texts

Braces are text as long as they open nothing. A text in which no brace opens anything is read as it
is before everything that nothing raw stands in front of, because the brace that follows cannot
complete what a brace of the text has begun.
-/

namespace Dust

/-- A text in which no brace opens anything. -/
def IsPlainText (text : List Char) : Prop :=
  rawLength text = text.length

/-- A text is empty or begins with a brace. -/
def StopsAtBrace (later : List Char) : Prop :=
  later = [] ∨ ∃ rest, later = '{' :: rest

/-- A text that begins with nothing raw begins with a brace, if with anything. -/
theorem StopsAtBrace.of_rawLength {later : List Char} (stops : rawLength later = 0) :
    StopsAtBrace later := by
  cases later with
  | nil => exact .inl rfl
  | cons first rest =>
    unfold rawLength at stops
    split at stops
    · rename_i opens
      exact .inr ⟨rest, by rw [opens.1]⟩
    · cases stops

/-- A text that is not the inside of a reference is none if a brace follows it. -/
theorem closesReference_append_eq_false {text later : List Char}
    (outside : closesReference text = false) (brace : StopsAtBrace later) :
    closesReference (text ++ later) = false := by
  induction text with
  | nil =>
    rcases brace with rfl | ⟨rest, rfl⟩ <;> rfl
  | cons c rest induction =>
    simp only [closesReference, Bool.or_eq_false_iff, Bool.and_eq_false_iff] at outside
    simp only [List.cons_append, closesReference, Bool.or_eq_false_iff, Bool.and_eq_false_iff]
    exact ⟨outside.1, outside.2.imp_right induction⟩

/-- Letters that are no special character are none if a brace follows them. -/
theorem specialLength?_append_eq_none {text later : List Char}
    (letterless : specialLength? text = none) (brace : StopsAtBrace later) :
    specialLength? (text ++ later) = none := by
  have noLetters : later.takeWhile Char.isAlpha = [] := by
    rcases brace with rfl | ⟨rest, rfl⟩ <;> rfl
  have unclosed : later.head? ≠ some '}' := by
    rcases brace with rfl | ⟨rest, rfl⟩ <;> simp
  have letters : (text ++ later).takeWhile Char.isAlpha = text.takeWhile Char.isAlpha := by
    rw [List.takeWhile_append, noLetters, List.append_nil]
    split
    · rename_i whole
      exact ((List.takeWhile_prefix Char.isAlpha).eq_of_length whole).symm
    · rfl
  have within : (text.takeWhile Char.isAlpha).length ≤ text.length :=
    (List.takeWhile_prefix Char.isAlpha).length_le
  simp only [specialLength?, ite_eq_right_iff, reduceCtorEq, imp_false, not_and] at letterless ⊢
  rw [letters, List.drop_append_of_le_length within, List.head?_append]
  intro lettered closes
  rcases Option.or_eq_some_iff.mp closes with here | ⟨-, behind⟩
  · exact letterless lettered here
  · exact unclosed behind

/-- A tag that cannot go on with a text cannot go on with it before a brace. -/
theorem beginsTag_append_eq_false {text later : List Char} (wordless : beginsTag text = false)
    (brace : StopsAtBrace later) : beginsTag (text ++ later) = false := by
  cases text with
  | cons first rest => exact wordless
  | nil =>
    rcases brace with rfl | ⟨rest, rfl⟩ <;> rfl

/-- A brace that opens nothing with the text after it opens nothing before another brace. -/
theorem Opening.ofText_append_eq_text {text later : List Char} (plain : Opening.ofText text = .text)
    (brace : StopsAtBrace later) : Opening.ofText (text ++ later) = .text := by
  cases text with
  | nil =>
    rcases brace with rfl | ⟨more, rfl⟩ <;> rfl
  | cons c rest =>
    by_cases comment : c = '!'
    · subst comment
      simp only [Opening.ofText] at plain
      split at plain <;> cases plain
    by_cases raw : c = '`'
    · subst raw
      simp only [Opening.ofText] at plain
      split at plain <;> cases plain
    by_cases special : c = '~'
    · subst special
      simp only [List.cons_append, Opening.ofText] at plain ⊢
      cases letters : specialLength? rest with
      | some length =>
        rw [letters] at plain
        cases plain
      | none => rw [specialLength?_append_eq_none letters brace]
    rw [Opening.ofText_unmarked comment raw special] at plain
    rw [List.cons_append, Opening.ofText_unmarked comment raw special]
    cases kind : TokenKind.ofSigil? c with
    | some kind =>
      simp only [kind, ite_eq_right_iff, reduceCtorEq, imp_false, Bool.not_eq_true] at plain ⊢
      exact beginsTag_append_eq_false plain brace
    | none =>
      simp only [kind, ite_eq_right_iff, reduceCtorEq, imp_false, Bool.not_eq_true,
        Bool.and_eq_false_iff] at plain ⊢
      exact plain.imp_right fun inside => closesReference_append_eq_false inside brace

/-- A plain text is raw up to where nothing raw follows. -/
theorem IsPlainText.rawLength_append {text later : List Char} (plain : IsPlainText text)
    (stops : rawLength later = 0) : rawLength (text ++ later) = text.length := by
  induction text with
  | nil => exact stops
  | cons c rest induction =>
    unfold IsPlainText rawLength at plain
    split at plain
    · cases plain
    · rename_i opens
      have inside : IsPlainText rest := Nat.succ.inj plain
      have stillPlain : ¬ (c = '{' ∧ Opening.ofText (rest ++ later) ≠ .text) := by
        rintro ⟨isBrace, more⟩
        refine more (Opening.ofText_append_eq_text ?_ (.of_rawLength stops))
        exact Classical.byContradiction fun some => opens ⟨isBrace, some⟩
      rw [List.cons_append, rawLength, if_neg stillPlain, induction inside, List.length_cons]

/-- A plain text is cut off where nothing raw follows. -/
theorem IsPlainText.cuts {start : Nat} {first : Char} {rest later : List Char}
    (plain : IsPlainText (first :: rest)) (stops : rawLength later = 0) :
    Cuts .text start (first :: rest) [⟨.raw, first :: rest, start⟩] .text later := by
  have whole := plain.rawLength_append stops
  rw [List.cons_append, rawLength] at whole
  split at whole
  · cases whole
  · rename_i opens
    have length : rawLength (rest ++ later) = rest.length := Nat.succ.inj whole
    apply Cuts.token _ (by decide)
    by_cases isBrace : first = '{'
    · have nothing : Opening.ofText (rest ++ later) = .text :=
        Classical.byContradiction fun some => opens ⟨isBrace, some⟩
      simp [TokenMode.scan, scanText, isBrace, nothing, length]
    · simp [TokenMode.scan, scanText, isBrace, length]

/-- The parts of a plain text: the text itself, unless it is empty. -/
def plainBody (text : String) : Body :=
  if text = "" then [] else [.text text]

/-- A plain text is read as it is. -/
theorem IsPlainText.segments {text : String} (plain : IsPlainText text.toList)
    {readString : Token → Except Located Body} {source later : List Char} {start : Nat}
    (stops : rawLength later = 0) :
    ∃ segments, BodySegments readString source start text.toList (plainBody text) later segments
      (plainBody text) := by
  unfold plainBody
  split
  · rename_i empty
    subst empty
    exact ⟨[], .nil⟩
  · rename_i solid
    cases letters : text.toList with
    | nil => exact absurd (String.toList_eq_nil_iff.mp letters) solid
    | cons first rest =>
      rw [letters] at plain
      refine ⟨_, .part (Yields.single (plain.cuts stops) ?_) rfl⟩
      intro failure tokens
      rw [← letters]
      simp [Segment.read, Whitespace.apply]

/-- Where a plain text is written, its parts are no texts side by side. -/
theorem isSettled_plainBody (text : String) : (plainBody text).isSettled = true := by
  unfold plainBody
  split
  · rfl
  · rename_i solid
    simp [Body.isSettled, solid]

/-- A plain text is the text of its parts. -/
theorem writtenBody_plainBody (text : String) :
    Part.writtenBody (plainBody text) = text.toList := by
  unfold plainBody
  split
  · rename_i empty
    rw [empty]
    rfl
  · simp [Part.writtenBody, Part.written]

end Dust
