import Dust.Diagram
import Dust.Proofs.Syntax.Slices
import Mathlib.Data.List.DropRight

/-!
# Shown places

The diagram of an error shows a line of the source with its number and marks a column in it. The
lines of a text are counted from its front, and the place is found by walking through them, so a
text is taken apart into the lines that end before the place and what is in front of the place in
its own line. Behind the last line feed of a text there is no line any more, and the diagram shows
the line before it instead.
-/

namespace Dust

/-! ### What a diagram shows -/

/-- What a diagram shows of a place. -/
structure ShownPlace where
  /-- The number of the line. -/
  number : Nat
  /-- The text of the line. -/
  code : List Char
  /-- The column of the place in the line. -/
  column : Nat
  deriving DecidableEq

/-- The diagram that shows a place, with the name of the template if there is one, so many carets
and a message. -/
def ShownPlace.diagram (shown : ShownPlace) (template : Option (List Char)) (carets : Nat)
    (message : List Char) : List Char :=
  let number := Number.natText shown.number
  let margin := '\n' :: ' ' :: blanks number.length ++ [' ', '|']
  let heading := match template with
    | none => []
    | some name =>
      "\n  --> ".toList ++ name ++ ':' :: number ++ ':' :: Number.natText shown.column
  heading ++ margin ++ '\n' :: ' ' :: number ++ ' ' :: '|' :: ' ' :: shown.code ++ margin ++
    ' ' :: blanks (shown.column - 1) ++ List.replicate carets '^' ++ ' ' :: message ++ ['\n']

/-- What is in front of a place in its line. -/
def lineBefore (before : List Char) : List Char :=
  before.rtakeWhile (· ≠ '\n')

/-- The place between two texts: the number of its line is one more than the line feeds before it,
the line goes from the last of them to the next one, and the column is one more than the columns of
what is in front of the place. -/
def ShownPlace.between (before after : List Char) : ShownPlace where
  number := before.count '\n' + 1
  code := lineBefore before ++ after.takeWhile (· ≠ '\n')
  column := Text.columns (lineBefore before) + 1

/-- The place behind the line feed that ends a text, shown at the end of the line before it but
with the number of the line that would begin there. -/
def ShownPlace.behindLast (front : List Char) : ShownPlace where
  number := front.count '\n' + 2
  code := lineBefore front
  column := Text.columns (lineBefore front) + 1

/-- What the diagram of a source shows. -/
def ShownPlace.ofByte (source : List Char) (byte : Nat) : ShownPlace :=
  let lines := Text.lines source
  let position := Position.ofByte lines byte
  ⟨position.line + 1, (lines[position.line]?).getD (lines.getLast?.getD []), position.column + 1⟩

/-- A diagram shows the place where its span starts. -/
theorem diagram_eq (message : List Char) (template : Option (List Char)) (source : List Char)
    (span : Span) :
    diagram message template source span =
      (ShownPlace.ofByte source span.start).diagram template (span.columns source) message :=
  rfl

/-! ### Lines -/

/-- Lines with the line feeds that end them. -/
def endedLines (ended : List (List Char)) : List Char :=
  ended.flatMap (· ++ ['\n'])

/-- Lines with their line feeds are written one after the other. -/
theorem endedLines_cons (line : List Char) (more : List (List Char)) :
    endedLines (line :: more) = line ++ '\n' :: endedLines more := by
  simp [endedLines]

/-- Lines with their line feeds end with a line feed. -/
theorem endedLines_concat (front : List (List Char)) (line : List Char) :
    endedLines (front ++ [line]) = endedLines front ++ line ++ ['\n'] := by
  simp [endedLines]

/-- The lines in front of a place, and what is in front of it in its own line. -/
structure Lies (before : List Char) (ended : List (List Char)) (current : List Char) : Prop where
  /-- They are what is in front of the place. -/
  whole : before = endedLines ended ++ current
  /-- No line goes on behind a line feed. -/
  free : ∀ line ∈ ended, '\n' ∉ line
  /-- The line of the place has not ended. -/
  unended : '\n' ∉ current

/-- Every text is made of lines. -/
theorem exists_lies (before : List Char) : ∃ ended current, Lies before ended current := by
  induction before with
  | nil => exact ⟨[], [], rfl, by simp, by simp⟩
  | cons c rest induction =>
    obtain ⟨ended, current, rfl, free, unended⟩ := induction
    by_cases feed : c = '\n'
    · exact ⟨[] :: ended, current, by simp [endedLines, feed], by simpa using free, unended⟩
    · cases ended with
      | nil =>
        exact ⟨[], c :: current, rfl, by simp, by simp [unended, Ne.symm feed]⟩
      | cons line more =>
        obtain ⟨line_free, more_free⟩ := List.forall_mem_cons.mp free
        refine ⟨(c :: line) :: more, current, by simp [endedLines], ?_, unended⟩
        exact List.forall_mem_cons.mpr ⟨by simp [line_free, Ne.symm feed], more_free⟩

/-- A line that has ended is the first one. -/
theorem Text.lines_cons {line : List Char} (free : '\n' ∉ line) (rest : List Char) :
    lines (line ++ '\n' :: rest) = line :: lines rest := by
  induction line with
  | nil => simp [lines]
  | cons c more induction =>
    obtain ⟨other, free⟩ := not_or.mp (mt List.mem_cons.mpr free)
    simp [lines, Ne.symm other, induction free]

/-- Lines that have ended are the first ones. -/
theorem Text.lines_endedLines {ended : List (List Char)} (free : ∀ line ∈ ended, '\n' ∉ line)
    (rest : List Char) : lines (endedLines ended ++ rest) = ended ++ lines rest := by
  induction ended with
  | nil => rfl
  | cons line more induction =>
    obtain ⟨line_free, more_free⟩ := List.forall_mem_cons.mp free
    rw [endedLines_cons, List.append_assoc, List.cons_append, lines_cons line_free,
      induction more_free, List.cons_append]

/-- A text that is not empty begins with a line. -/
theorem Text.lines_eq_cons {text : List Char} (solid : text ≠ []) :
    ∃ more, lines text = text.takeWhile (· ≠ '\n') :: more := by
  induction text with
  | nil => exact absurd rfl solid
  | cons c rest induction =>
    by_cases feed : c = '\n'
    · exact ⟨lines rest, by simp [lines, feed]⟩
    · by_cases empty : rest = []
      · exact ⟨[], by simp [lines, feed, empty]⟩
      · obtain ⟨more, first⟩ := induction empty
        exact ⟨more, by simp [lines, feed, first]⟩

/-! ### Places -/

namespace Lies

variable {before after current : List Char} {ended : List (List Char)}

/-- What is in front of a place in its line. -/
theorem lineBefore_eq (lies : Lies before ended current) : lineBefore before = current := by
  have stops : Stops (fun c => decide (c ≠ '\n')) (endedLines ended).reverse := by
    rcases ended.eq_nil_or_concat with rfl | ⟨front, line, rfl⟩
    · simp [Stops, endedLines]
    · simp [Stops, endedLines]
  have inside : ∀ c ∈ current.reverse, decide (c ≠ '\n') = true := by
    intro c mem
    rw [List.mem_reverse] at mem
    exact decide_eq_true fun same => lies.unended (same ▸ mem)
  rw [lineBefore, List.rtakeWhile, lies.whole, List.reverse_append,
    takeWhile_append_of_stops inside stops, List.reverse_reverse]

/-- The number of line feeds before a place. -/
theorem count_eq (lies : Lies before ended current) : before.count '\n' = ended.length := by
  have free := lies.free
  rw [lies.whole, List.count_append, List.count_eq_zero.mpr lies.unended, Nat.add_zero]
  clear lies
  induction ended with
  | nil => rfl
  | cons line more induction =>
    obtain ⟨line_free, more_free⟩ := List.forall_mem_cons.mp free
    rw [endedLines_cons, List.count_append, List.count_eq_zero.mpr line_free, List.count_cons_self,
      induction more_free, Nat.zero_add, List.length_cons]

/-- The lines around a place. -/
theorem lines_eq (lies : Lies before ended current) (after : List Char) :
    Text.lines (before ++ after) = ended ++ Text.lines (current ++ after) := by
  rw [lies.whole, List.append_assoc, Text.lines_endedLines lies.free]

end Lies

/-- The place is looked for behind the lines that have ended before it. -/
theorem Position.find_endedLines (index last byte : Nat) (ended more : List (List Char)) :
    find index last (Text.byteSize (endedLines ended) + byte) (ended ++ more) =
      find (index + ended.length) ((ended.getLast?.map Text.columns).getD last) byte more := by
  induction ended generalizing index last with
  | nil => simp [endedLines, Text.byteSize_nil]
  | cons line ended induction =>
    have size : Text.byteSize (endedLines (line :: ended)) + byte =
        Text.byteSize line + 1 + (Text.byteSize (endedLines ended) + byte) := by
      rw [endedLines_cons, Text.byteSize_append, Text.byteSize_cons]
      have feed : '\n'.utf8Size = 1 := rfl
      omega
    rw [List.cons_append, find, size, if_neg (by omega), Nat.add_sub_cancel_left, induction,
      List.getLast?_cons, List.length_cons, Nat.add_assoc, Nat.add_comm 1]
    cases ended.getLast? <;> rfl

/-- A place is in its line what is in front of it there. -/
theorem columnsBefore_append (front back : List Char) :
    columnsBefore (front ++ back) (Text.byteSize front) = Text.columns front := by
  rw [columnsBefore, Text.splitBytes?_append]

section Shown

variable {before after current : List Char} {ended : List (List Char)}

/-- A place that has a line is shown in it. -/
theorem ShownPlace.ofByte_of_line (lies : Lies before ended current) (line : current ++ after ≠ []) :
    ofByte (before ++ after) (Text.byteSize before) = between before after := by
  obtain ⟨more, first⟩ := Text.lines_eq_cons line
  have inside : ∀ c ∈ current, decide (c ≠ '\n') = true :=
    fun c mem => decide_eq_true fun same => lies.unended (same ▸ mem)
  rw [List.takeWhile_append_of_pos inside] at first
  have place : Text.byteSize current <
      Text.byteSize (current ++ after.takeWhile (· ≠ '\n')) + 1 := by
    rw [Text.byteSize_append]
    omega
  have position : Position.ofByte (Text.lines (before ++ after)) (Text.byteSize before) =
      ⟨ended.length, Text.columns current⟩ := by
    rw [Position.ofByte, lies.lines_eq, first, lies.whole, Text.byteSize_append,
      Position.find_endedLines, Position.find, if_pos place, columnsBefore_append, Nat.zero_add]
  simp only [ofByte, position, between, lies.count_eq, lies.lineBefore_eq]
  rw [lies.lines_eq, first]
  simp

/-- A place behind the last line feed is shown in the line before it. -/
theorem ShownPlace.ofByte_behindLast (front : List Char) :
    ofByte (front ++ ['\n']) (Text.byteSize (front ++ ['\n'])) = behindLast front := by
  obtain ⟨ended, current, lies⟩ := exists_lies front
  have whole : front ++ ['\n'] = endedLines (ended ++ [current]) := by
    rw [endedLines_concat, lies.whole]
  have free : ∀ line ∈ ended ++ [current], '\n' ∉ line := by
    simpa [or_imp, forall_and] using And.intro lies.free lies.unended
  have lines : Text.lines (front ++ ['\n']) = ended ++ [current] := by
    have all := Text.lines_endedLines free []
    simpa [whole, Text.lines] using all
  have position : Position.ofByte (ended ++ [current]) (Text.byteSize (front ++ ['\n'])) =
      ⟨ended.length + 1, Text.columns current⟩ := by
    have found := Position.find_endedLines 0 0 0 (ended ++ [current]) []
    rw [← whole, List.append_nil, Nat.add_zero] at found
    simpa [Position.ofByte, Position.find] using found
  simp [ofByte, lines, position, behindLast, lies.count_eq, lies.lineBefore_eq]

end Shown

/-- The place between two texts is behind the line feed of a line that has text. -/
def IsBehindLine (before after : List Char) : Prop :=
  after = [] ∧ ∃ front, before = front ++ ['\n'] ∧ lineBefore front ≠ []

/-- Behind an empty line it makes no difference which line is shown. -/
theorem ShownPlace.behindLast_eq_between {front : List Char} (empty : lineBefore front = []) :
    behindLast front = between (front ++ ['\n']) [] := by
  have line : lineBefore (front ++ ['\n']) = [] := by simp [lineBefore]
  simp [behindLast, between, empty, line]

/-- A place is shown where it is, unless it is behind the line feed of a line that has text. -/
theorem ShownPlace.ofByte_eq_between {before after : List Char}
    (other : ¬ IsBehindLine before after) :
    ofByte (before ++ after) (Text.byteSize before) = between before after := by
  obtain ⟨ended, current, lies⟩ := exists_lies before
  by_cases line : current ++ after = []
  · obtain ⟨rfl, rfl⟩ := List.append_eq_nil_iff.mp line
    rw [List.append_nil]
    rcases ended.eq_nil_or_concat with rfl | ⟨init, last, rfl⟩
    · rw [lies.whole]
      rfl
    · have whole : before = endedLines init ++ last ++ ['\n'] := by
        rw [lies.whole, List.concat_eq_append, endedLines_concat, List.append_nil]
      have empty : lineBefore (endedLines init ++ last) = [] :=
        not_not.mp fun solid => other ⟨rfl, _, whole, solid⟩
      rw [whole, ofByte_behindLast, behindLast_eq_between empty]
  · exact ofByte_of_line lies line

/-! ### Errors of compiling -/

/-- The text of an error is the diagram of a place, with carets under the span of the error. -/
def Error.Shows (error : Error) (shown : ShownPlace) : Prop :=
  ∃ location, error.location = some location ∧
    error.pretty = String.ofList (shown.diagram (error.template.map String.toList)
      (location.span.columns location.source.toList) error.message.toList)

/-- The text of an error shows the place where its span starts. -/
theorem Error.shows_ofByte {error : Error} {source : String} {span : Span}
    (located : error.location = some ⟨source, span⟩) :
    error.Shows (.ofByte source.toList span.start) := by
  refine ⟨_, located, ?_⟩
  rw [pretty, located]
  exact congrArg String.ofList (diagram_eq ..)

/-- The diagram of an error of compiling shows the line of the place where its span starts, with one
more than the line feeds before the place as its number, and marks the column of the place, one more
than the columns in front of it in the line, with the name of a template and without. Only behind
the line feed that ends the source, if the last line has text, that line is shown to its end, with
the number of the next one. -/
theorem compileSource_shows_place (whitespace : Whitespace) (source : String) {error : Error}
    (failed : compileSource whitespace source = .error error) :
    ∃ span before after, error.location = some ⟨source, span⟩ ∧
      source.toList = before ++ after ∧ Text.byteSize before = span.start ∧
      ∀ template : Option String,
        (¬ IsBehindLine before after → { error with template }.Shows (.between before after)) ∧
          ∀ front, before = front ++ ['\n'] → after = [] →
            { error with template }.Shows (.behindLast front) := by
  rcases (compileSource_isControlled whitespace source).1 with ⟨template, compiled⟩ | found
  · rw [compiled] at failed
    cases failed
  obtain ⟨fault, span, compiled, -, -, inside⟩ := found
  rw [compiled] at failed
  cases failed
  obtain ⟨⟨before, ⟨after, whole⟩, start⟩, -, -⟩ := inside
  refine ⟨span, before, after, rfl, whole.symm, start, fun template => ?_⟩
  have shows := @Error.shows_ofByte
    { fault := .malformed fault, template, location := some ⟨source, span⟩ } _ _ rfl
  rw [← whole, ← start] at shows
  refine ⟨fun other => ?_, ?_⟩
  · rwa [ShownPlace.ofByte_eq_between other] at shows
  · rintro front rfl rfl
    rwa [List.append_nil, ShownPlace.ofByte_behindLast] at shows

/-- A result that is a fault after it has been mapped is this fault. -/
theorem Except.eq_error_of_map {ε α β : Type} {result : Except ε α} {f : α → β} {fault : ε}
    (mapped : result.map f = .error fault) : result = .error fault := by
  cases result with
  | error found => cases mapped; rfl
  | ok value => cases mapped

/-- A tag that is not closed behind a wide character in the second line is shown there. -/
theorem compileSource_shows_place_wide :
    let source := "a\n世\x7b#b\nc"
    ∃ error, compileSource .compress source = .error error ∧
      { error with template := some "t" }.Shows ⟨2, "世\x7b#b".toList, 3⟩ := by
  intro source
  have failed : compileSource .compress source =
      .error { fault := .malformed .unclosedTag, location := some ⟨source, ⟨5, 7⟩⟩ } :=
    Except.eq_error_of_map (f := fun _ => ()) (by decide +kernel)
  refine ⟨_, failed, ?_⟩
  obtain ⟨span, before, after, located, whole, start, shows⟩ :=
    compileSource_shows_place .compress source failed
  cases located
  have split := Text.splitBytes?_append before after
  rw [← whole, start] at split
  have cut : Text.splitBytes? 5 source.toList = some ("a\n世".toList, "\x7b#b\nc".toList) := by
    decide
  obtain ⟨rfl, rfl⟩ := Prod.mk.inj (Option.some.inj (split.symm.trans cut))
  have place : ShownPlace.between "a\n世".toList "\x7b#b\nc".toList =
      ⟨2, "世\x7b#b".toList, 3⟩ := by decide +kernel
  have shown := (shows (some "t")).1 fun behind => absurd behind.1 (by simp)
  rwa [place] at shown

/-- The end tag that is missing behind the line feed of the only line is reported in the second
line, but the text of the first one is shown and its end is marked. -/
theorem compileSource_shows_line_before :
    let source := "\x7b/a/\x7d\n"
    ∃ error, compileSource .preserve source = .error error ∧
      error.location = some ⟨source, ⟨6, 6⟩⟩ ∧
      error.pretty =
        "\n   |\n 2 | \x7b/a/\x7d\n   |      ^ expected end tag, found EOF\n" ∧
      ¬ error.Shows (.between source.toList []) := by
  intro source
  have failed : compileSource .preserve source =
      .error { fault := .malformed (.expected (.token .tagEnd) none),
               location := some ⟨source, ⟨6, 6⟩⟩ } :=
    Except.eq_error_of_map (f := fun _ => ()) (by decide +kernel)
  refine ⟨_, failed, rfl, by decide +kernel, ?_⟩
  rintro ⟨_, ⟨⟩, same⟩
  revert same
  decide +kernel

end Dust
