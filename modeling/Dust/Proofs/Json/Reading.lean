import Dust.Json.Writer
import Dust.Proofs.Json.Numeral
import Dust.Proofs.Json.Quoting

/-!
# Reading JSON back

The text of a tree is read back as the tree, if its numbers and strings are written the way the
writers of this library write them. There may be white space around the items and fields and behind
the colons: both layouts of the writer, the compact and the indented one, are a choice of these
blanks. A value is read off the front of a text, so the induction is over the tree with any text
behind it; only a number must know that it does not go on there.
-/

namespace Dust.Json

mutual

/-- The numbers and strings of a tree are written as numbers and texts are. -/
def IsWritten : Json → Prop
  | .number written => ∃ parts : Written, parts.IsProper ∧ parts.text = written
  | .string written => ∃ text, quote text = written
  | .array items => AreWrittenItems items
  | .object fields => AreWrittenFields fields
  | _ => True

/-- The numbers and strings of some trees are written as numbers and texts are. -/
def AreWrittenItems : List Json → Prop
  | [] => True
  | item :: rest => IsWritten item ∧ AreWrittenItems rest

/-- The numbers and strings of some fields are written as numbers and texts are. -/
def AreWrittenFields : List (List Char × Json) → Prop
  | [] => True
  | (name, value) :: rest => (∃ text, quote text = name) ∧ IsWritten value ∧ AreWrittenFields rest

end

theorem areWrittenItems_iff {items : List Json} :
    AreWrittenItems items ↔ ∀ item ∈ items, item.IsWritten := by
  induction items with
  | nil => simp [AreWrittenItems]
  | cons item rest induction => simp [AreWrittenItems, induction]

/-- An array is written as its items are. -/
@[simp]
theorem array_isWritten {items : List Json} :
    (array items).IsWritten ↔ ∀ item ∈ items, item.IsWritten :=
  areWrittenItems_iff

/-- A record is written as its fields are. -/
@[simp]
theorem ofFields_isWritten {fields : List (String × Json)} :
    (ofFields fields).IsWritten ↔ ∀ field ∈ fields, field.2.IsWritten := by
  change AreWrittenFields _ ↔ _
  induction fields with
  | nil => simp [AreWrittenFields]
  | cons field rest induction =>
    rw [List.map_cons, AreWrittenFields, induction]
    simp

/-- A text is written as texts are. -/
@[simp]
theorem ofString_isWritten (text : String) : (ofString text).IsWritten :=
  ⟨_, rfl⟩

/-- An integer is written as numbers are. -/
@[simp]
theorem ofInt_isWritten (n : Int) : (ofInt n).IsWritten :=
  ⟨_, Written.ofInt_isProper n, Written.text_ofInt n⟩

/-- The word `null` is written as it is. -/
@[simp]
theorem null_isWritten : null.IsWritten :=
  trivial

/-- A text begins with a character that begins a value. -/
def BeginsValue (text : List Char) : Prop :=
  ∃ first rest, text = first :: rest ∧ isSpace first = false ∧ first ≠ ']' ∧ first ≠ '}'

/-- A digit or a minus begins a number and nothing else. -/
theorem Written.text_eq_cons {written : Written} (proper : written.IsProper) :
    ∃ first rest, written.text = first :: rest ∧ (first = '-' ∨ first.isDigit = true) := by
  unfold text
  cases negative : written.negative with
  | true => exact ⟨'-', _, rfl, .inl rfl⟩
  | false =>
    cases whole : written.whole with
    | nil => exact absurd whole proper.whole_ne_nil
    | cons digit rest =>
      exact ⟨digit, _, rfl, .inr (proper.whole digit (whole ▸ List.mem_cons_self))⟩

/-- What begins a number is none of the characters of another class. -/
theorem ne_of_beginsNumber {first : Char} (begins : first = '-' ∨ first.isDigit = true) {c : Char}
    (other : c.isDigit = false) (noMinus : c ≠ '-') : first ≠ c := by
  rintro rfl
  rcases begins with minus | digit
  · exact noMinus minus
  · rw [other] at digit
    cases digit

/-- White space does not begin a number. -/
theorem isSpace_of_beginsNumber {first : Char} (begins : first = '-' ∨ first.isDigit = true) :
    isSpace first = false := by
  have ne {c : Char} := @ne_of_beginsNumber first begins c
  simp [isSpace, ne (c := ' ') (by decide) (by decide), ne (c := '\t') (by decide) (by decide),
    ne (c := '\n') (by decide) (by decide), ne (c := '\r') (by decide) (by decide)]

/-! ### Layouts -/

/-- The white space of a layout. -/
structure Spacing where
  /-- What stands in front of the items and fields at a depth, and of the mark that closes what is
  around them. -/
  line : Nat → List Char
  /-- What stands behind the colon of a field. -/
  gap : List Char

namespace Spacing

/-- No white space. -/
def none : Spacing := ⟨fun _ => [], []⟩

/-- A line for every item and field. -/
def lines : Spacing := ⟨newLine, [' ']⟩

/-- All of it is white space. -/
structure IsBlank (spacing : Spacing) : Prop where
  /-- There is white space in front of items and fields. -/
  line : ∀ depth, ∀ c ∈ spacing.line depth, isSpace c = true
  /-- There is white space behind colons. -/
  gap : ∀ c ∈ spacing.gap, isSpace c = true

/-- Nothing is white space. -/
theorem none_isBlank : none.IsBlank where
  line _ _ mem := by cases mem
  gap _ mem := by cases mem

/-- A new line with blanks is white space. -/
theorem lines_isBlank : lines.IsBlank where
  line depth c mem := by
    rcases List.mem_cons.mp mem with rfl | mem
    · rfl
    · rw [List.eq_of_mem_replicate mem]
      rfl
  gap c mem := by
    rw [List.mem_singleton.mp mem]
    rfl

end Spacing

section Texts

variable (spacing : Spacing)

mutual

/-- The text of a tree at a depth in a layout. -/
def spaced (depth : Nat) : Json → List Char
  | .array items =>
    match items with
    | [] => ['[', ']']
    | item :: rest =>
      '[' :: (spacing.line (depth + 1) ++ (spacedItems (depth + 1) (item :: rest) ++
        (spacing.line depth ++ [']'])))
  | .object fields =>
    match fields with
    | [] => ['{', '}']
    | field :: rest =>
      '{' :: (spacing.line (depth + 1) ++ (spacedFields (depth + 1) (field :: rest) ++
        (spacing.line depth ++ ['}'])))
  | json => compact json

/-- The items of an array from the first one on. -/
def spacedItems (depth : Nat) : List Json → List Char
  | [] => []
  | [item] => spaced depth item
  | item :: next :: rest =>
    spaced depth item ++ ',' :: (spacing.line depth ++ spacedItems depth (next :: rest))

/-- The fields of an object from the first one on. -/
def spacedFields (depth : Nat) : List (List Char × Json) → List Char
  | [] => []
  | [(name, value)] => inQuotes name ++ ':' :: (spacing.gap ++ spaced depth value)
  | (name, value) :: next :: rest =>
    inQuotes name ++ ':' :: (spacing.gap ++ (spaced depth value ++
      ',' :: (spacing.line depth ++ spacedFields depth (next :: rest))))

end

end Texts

mutual

/-- The compact text has no white space. -/
theorem spaced_none (json : Json) (depth : Nat) : spaced .none depth json = compact json := by
  match json with
  | .null | .bool true | .bool false | .number _ | .string _ | .array [] | .object [] => rfl
  | .array (item :: rest) =>
    have items := spacedItems_none (item :: rest) (depth + 1)
    rw [spaced, compact, ← items]
    rfl
  | .object (field :: rest) =>
    have fields := spacedFields_none (field :: rest) (depth + 1)
    rw [spaced, compact, ← fields]
    rfl

/-- The compact text of items has no white space. -/
theorem spacedItems_none (items : List Json) (depth : Nat) :
    spacedItems .none depth items = compactItems items := by
  match items with
  | [] => rfl
  | [item] => exact spaced_none item depth
  | item :: next :: rest =>
    rw [spacedItems, compactItems, spaced_none item depth, spacedItems_none (next :: rest) depth]
    rfl

/-- The compact text of fields has no white space. -/
theorem spacedFields_none (fields : List (List Char × Json)) (depth : Nat) :
    spacedFields .none depth fields = compactFields fields := by
  match fields with
  | [] => rfl
  | [(name, value)] =>
    rw [spacedFields, compactFields, spaced_none value depth]
    rfl
  | (name, value) :: next :: rest =>
    rw [spacedFields, compactFields, spaced_none value depth,
      spacedFields_none (next :: rest) depth]
    simp [Spacing.none]

end

mutual

/-- The indented text has a line for every item and field. -/
theorem spaced_lines (json : Json) (depth : Nat) :
    spaced .lines depth json = indented depth json := by
  match json with
  | .null | .bool true | .bool false | .number _ | .string _ | .array [] | .object [] => rfl
  | .array (item :: rest) =>
    have items := spacedItems_lines (item :: rest) (depth + 1) (List.cons_ne_nil item rest)
    simp only [spaced, indented, ← items, Spacing.lines, List.append_assoc, List.cons_append]
  | .object (field :: rest) =>
    have fields := spacedFields_lines (field :: rest) (depth + 1) (List.cons_ne_nil field rest)
    simp only [spaced, indented, ← fields, Spacing.lines, List.append_assoc, List.cons_append]

/-- Every item of an indented text follows a new line. -/
theorem spacedItems_lines (items : List Json) (depth : Nat) (nonempty : items ≠ []) :
    newLine depth ++ spacedItems .lines depth items = indentedItems depth items := by
  match items with
  | [] => exact absurd rfl nonempty
  | [item] => rw [spacedItems, indentedItems, spaced_lines item depth]
  | item :: next :: rest =>
    have items := spacedItems_lines (next :: rest) depth (List.cons_ne_nil next rest)
    rw [spacedItems, indentedItems, spaced_lines item depth, ← items]
    simp [Spacing.lines]

/-- Every field of an indented text follows a new line. -/
theorem spacedFields_lines (fields : List (List Char × Json)) (depth : Nat)
    (nonempty : fields ≠ []) :
    newLine depth ++ spacedFields .lines depth fields = indentedFields depth fields := by
  match fields with
  | [] => exact absurd rfl nonempty
  | [(name, value)] =>
    rw [spacedFields, indentedFields, spaced_lines value depth]
    simp [Spacing.lines]
  | (name, value) :: next :: rest =>
    have fields := spacedFields_lines (next :: rest) depth (List.cons_ne_nil next rest)
    rw [spacedFields, indentedFields, spaced_lines value depth, ← fields]
    simp [Spacing.lines]

end

/-! ### Reading -/

/-- White space in front of a text is skipped with that of the text. -/
theorem skipSpace_append {blanks : List Char} (blank : ∀ c ∈ blanks, isSpace c = true)
    (text : List Char) : skipSpace (blanks ++ text) = skipSpace text :=
  List.dropWhile_append_of_pos blank

/-- No blank is skipped in front of what begins a value. -/
theorem skipSpace_of_begins {text : List Char} (begins : BeginsValue text) (later : List Char) :
    skipSpace (text ++ later) = text ++ later := by
  obtain ⟨first, rest, rfl, solid, -, -⟩ := begins
  simp [skipSpace, solid]

/-- A value is read behind white space as it is without it. -/
theorem readValue_blank {blanks : List Char} (blank : ∀ c ∈ blanks, isSpace c = true) (bound : Nat)
    (text : List Char) : readValue bound (blanks ++ text) = readValue bound text := by
  cases bound with
  | zero => rw [readValue, readValue]
  | succ bound => rw [readValue, readValue, skipSpace_append blank]

/-- Items are read behind white space as they are without it. -/
theorem readItems_blank {blanks : List Char} (blank : ∀ c ∈ blanks, isSpace c = true) (bound : Nat)
    (text : List Char) : readItems bound (blanks ++ text) = readItems bound text := by
  cases bound with
  | zero => rw [readItems, readItems]
  | succ bound => rw [readItems, readItems, readValue_blank blank]

/-- Fields are read behind white space as they are without it. -/
theorem readFields_blank {blanks : List Char} (blank : ∀ c ∈ blanks, isSpace c = true) (bound : Nat)
    (text : List Char) : readFields bound (blanks ++ text) = readFields bound text := by
  have name : readName (blanks ++ text) = readName text := by
    rw [readName, readName, skipSpace_append blank]
  cases bound with
  | zero => rw [readFields, readFields]
  | succ bound => rw [readFields, readFields, name]

/-- The text of a tree begins a value. -/
theorem beginsValue_spaced (spacing : Spacing) (depth : Nat) {json : Json}
    (written : json.IsWritten) : BeginsValue (spaced spacing depth json) := by
  match json with
  | .null => exact ⟨'n', _, rfl, by decide⟩
  | .bool true | .bool false => exact ⟨_, _, rfl, by decide⟩
  | .number text =>
    obtain ⟨parts, proper, rfl⟩ := written
    obtain ⟨first, rest, same, begins⟩ := parts.text_eq_cons proper
    have ne {c : Char} := @ne_of_beginsNumber first begins c
    exact ⟨first, rest, same, isSpace_of_beginsNumber begins, ne (by decide) (by decide),
      ne (by decide) (by decide)⟩
  | .string text => exact ⟨'"', _, rfl, by decide⟩
  | .array [] | .array (_ :: _) => exact ⟨'[', _, rfl, by decide⟩
  | .object [] | .object (_ :: _) => exact ⟨'{', _, rfl, by decide⟩

/-- The text of an item begins the items. -/
theorem beginsValue_spacedItems (spacing : Spacing) (depth : Nat) {item : Json} {rest : List Json}
    (written : item.IsWritten) : BeginsValue (spacedItems spacing depth (item :: rest)) := by
  obtain ⟨first, more, same, solid, noBracket, noBrace⟩ := beginsValue_spaced spacing depth written
  cases rest with
  | nil => exact ⟨first, more, by rw [spacedItems, same], solid, noBracket, noBrace⟩
  | cons next later =>
    exact ⟨first, _, by rw [spacedItems, same, List.cons_append], solid, noBracket, noBrace⟩

/-- A quote begins fields. -/
theorem spacedFields_eq_cons (spacing : Spacing) (depth : Nat) (field : List Char × Json)
    (rest : List (List Char × Json)) :
    ∃ more, spacedFields spacing depth (field :: rest) = '"' :: more := by
  cases rest <;> exact ⟨_, rfl⟩

/-- Neither a comma nor a bracket nor a brace goes on with a number. -/
theorem stops_mark {c : Char} (mark : c = ',' ∨ c = ']' ∨ c = '}') (later : List Char) :
    Stops Written.goesOn (c :: later) := by
  intro d mem
  cases mem
  rcases mark with rfl | rfl | rfl <;> rfl

/-- The name of a field is read with the colon behind it. -/
theorem readName_quote (text later : List Char) :
    readName (inQuotes (quote text) ++ ':' :: later) = some (quote text, later) := by
  have read := readQuoted_quote text (':' :: later)
  simp only [readName, inQuotes, List.cons_append, List.append_assoc, List.nil_append]
  rw [show skipSpace ('"' :: (quote text ++ '"' :: ':' :: later)) =
    '"' :: (quote text ++ '"' :: ':' :: later) from rfl]
  simp only [read, Option.bind_eq_bind, Option.bind_some]
  rfl

/-- What follows a value in an array or object does not go on with a number: white space, and then a
mark. -/
theorem stops_blank {blanks : List Char} (blank : ∀ c ∈ blanks, isSpace c = true) {c : Char}
    (mark : c = ',' ∨ c = ']' ∨ c = '}') (later : List Char) :
    Stops Written.goesOn (blanks ++ c :: later) := by
  cases blanks with
  | nil => exact stops_mark mark later
  | cons first rest =>
    intro d mem
    cases mem
    have space := blank first List.mem_cons_self
    simp only [isSpace, Bool.or_eq_true, decide_eq_true_eq] at space
    rcases space with ((rfl | rfl) | rfl) | rfl <;> rfl

/-- White space in front of a mark is skipped as far as the mark. -/
theorem skipSpace_mark {blanks : List Char} (blank : ∀ c ∈ blanks, isSpace c = true) {c : Char}
    (mark : c = ',' ∨ c = ']' ∨ c = '}') (later : List Char) :
    skipSpace (blanks ++ c :: later) = c :: later := by
  rw [skipSpace_append blank]
  rcases mark with rfl | rfl | rfl <;> rfl

/-- A comma is not skipped. -/
theorem skipSpace_comma (later : List Char) : skipSpace (',' :: later) = ',' :: later := rfl

/-! ### Values by what they begin with -/

section Beginnings

variable {bound : Nat} {first : Char} {text rest written later : List Char}

/-- What begins like a number is read as a number. -/
theorem readValue_number (begins : first = '-' ∨ first.isDigit = true)
    (read : readNumber (first :: rest) = some (written, later)) :
    readValue (bound + 1) (first :: rest) = some (.number written, later) := by
  have ne {c : Char} := @ne_of_beginsNumber first begins c
  have solid : skipSpace (first :: rest) = first :: rest := by
    simp [skipSpace, isSpace_of_beginsNumber begins]
  rw [readValue, solid]
  split
  case h_1 clash | h_2 clash | h_3 clash | h_4 clash | h_5 clash | h_6 clash =>
    exact absurd (List.cons.inj clash).1 (ne (by decide) (by decide))
  case h_7 => simp only [read, Option.bind_eq_bind, Option.bind_some]

/-- What stands behind a quote is read as a string. -/
theorem readValue_string (read : readQuoted text = some (written, later)) :
    readValue (bound + 1) ('"' :: text) = some (.string written, later) := by
  rw [readValue, show skipSpace ('"' :: text) = '"' :: text from rfl]
  simp only [read, Option.bind_eq_bind, Option.bind_some]

/-- Items behind a bracket are read as an array. -/
theorem readValue_array {items : List Json} (begins : skipSpace text = first :: rest)
    (noBracket : first ≠ ']') (read : readItems bound (first :: rest) = some (items, later)) :
    readValue (bound + 1) ('[' :: text) = some (.array items, later) := by
  rw [readValue, show skipSpace ('[' :: text) = '[' :: text from rfl]
  simp only [begins]
  split
  case h_1 clash => exact absurd (List.cons.inj clash).1 noBracket
  case h_2 => simp only [read, Option.bind_eq_bind, Option.bind_some]

/-- Fields behind a brace are read as an object. -/
theorem readValue_object {fields : List (List Char × Json)}
    (begins : skipSpace text = first :: rest) (noBrace : first ≠ '}')
    (read : readFields bound (first :: rest) = some (fields, later)) :
    readValue (bound + 1) ('{' :: text) = some (.object fields, later) := by
  rw [readValue, show skipSpace ('{' :: text) = '{' :: text from rfl]
  simp only [begins]
  split
  case h_1 clash => exact absurd (List.cons.inj clash).1 noBrace
  case h_2 => simp only [read, Option.bind_eq_bind, Option.bind_some]

end Beginnings

section Values

variable {spacing : Spacing} (blank : spacing.IsBlank)

include blank

mutual

/-- The text of a tree is read as the tree, as far as it goes. -/
theorem readValue_spaced (json : Json) (written : json.IsWritten) (depth bound : Nat)
    (enough : 2 * (spaced spacing depth json).length ≤ bound) {later : List Char}
    (stops : Stops Written.goesOn later) :
    readValue bound (spaced spacing depth json ++ later) = some (json, later) := by
  match bound with
  | 0 =>
    obtain ⟨first, rest, same, -⟩ := beginsValue_spaced spacing depth written
    rw [same, List.length_cons] at enough
    omega
  | bound + 1 =>
    match json with
    | .null => rfl
    | .bool true => rfl
    | .bool false => rfl
    | .number text =>
      obtain ⟨parts, proper, rfl⟩ := written
      obtain ⟨first, rest, same, begins⟩ := parts.text_eq_cons proper
      have read := Written.readNumber_text proper stops
      simp only [spaced, compact, same, List.cons_append] at read ⊢
      exact readValue_number begins read
    | .string text =>
      obtain ⟨text, rfl⟩ := written
      simp only [spaced, compact, inQuotes, List.cons_append, List.append_assoc, List.nil_append]
      exact readValue_string (readQuoted_quote text later)
    | .array [] => rfl
    | .object [] => rfl
    | .array (item :: rest) =>
      have items := readItems_spaced item rest written (depth + 1) bound (by
        simp only [spaced, List.length_cons, List.length_append] at enough
        omega) (blank.line depth) later
      have begins := @beginsValue_spacedItems spacing (depth + 1) item rest written.1
      have skipped := skipSpace_of_begins begins (spacing.line depth ++ ']' :: later)
      obtain ⟨first, more, same, -, noBracket, -⟩ := begins
      rw [same, List.cons_append] at items skipped
      simp only [spaced, same, List.cons_append, List.append_assoc, List.nil_append]
      refine readValue_array ?_ noBracket items
      rw [skipSpace_append (blank.line (depth + 1)), skipped]
    | .object (field :: rest) =>
      have fields := readFields_spaced field rest written (depth + 1) bound (by
        simp only [spaced, List.length_cons, List.length_append] at enough
        omega) (blank.line depth) later
      obtain ⟨more, same⟩ := spacedFields_eq_cons spacing (depth + 1) field rest
      rw [same, List.cons_append] at fields
      simp only [spaced, same, List.cons_append, List.append_assoc, List.nil_append]
      refine readValue_object ?_ (by decide) fields
      rw [skipSpace_append (blank.line (depth + 1))]
      rfl

/-- The text of items is read as the items up to the bracket. -/
theorem readItems_spaced (item : Json) (rest : List Json)
    (written : AreWrittenItems (item :: rest)) (depth bound : Nat)
    (enough : 2 * (spacedItems spacing depth (item :: rest)).length < bound) {closing : List Char}
    (closes : ∀ c ∈ closing, isSpace c = true) (later : List Char) :
    readItems bound (spacedItems spacing depth (item :: rest) ++ (closing ++ ']' :: later)) =
      some (item :: rest, later) := by
  match bound, rest with
  | 0, _ => omega
  | bound + 1, [] =>
    simp only [spacedItems] at enough ⊢
    have read := readValue_spaced item written.1 depth bound (by omega)
      (stops_blank closes (.inr (.inl rfl)) later)
    simp only [readItems, read, Option.bind_eq_bind, Option.bind_some,
      skipSpace_mark closes (.inr (.inl rfl))]
  | bound + 1, next :: more =>
    simp only [spacedItems, List.length_append, List.length_cons] at enough
    simp only [spacedItems, List.append_assoc, List.cons_append]
    have read := readValue_spaced item written.1 depth bound (by omega)
      (stops_mark (.inl rfl) (spacing.line depth ++
        (spacedItems spacing depth (next :: more) ++ (closing ++ ']' :: later))))
    have items := readItems_spaced next more written.2 depth bound (by omega) closes later
    simp only [readItems, read, Option.bind_eq_bind, Option.bind_some, skipSpace_comma,
      readItems_blank (blank.line depth), items]

/-- The text of fields is read as the fields up to the brace. -/
theorem readFields_spaced (field : List Char × Json) (rest : List (List Char × Json))
    (written : AreWrittenFields (field :: rest)) (depth bound : Nat)
    (enough : 2 * (spacedFields spacing depth (field :: rest)).length < bound)
    {closing : List Char} (closes : ∀ c ∈ closing, isSpace c = true) (later : List Char) :
    readFields bound (spacedFields spacing depth (field :: rest) ++ (closing ++ '}' :: later)) =
      some (field :: rest, later) := by
  obtain ⟨name, value⟩ := field
  obtain ⟨⟨text, rfl⟩, isWritten, others⟩ := written
  match bound, rest with
  | 0, _ => omega
  | bound + 1, [] =>
    simp only [spacedFields, List.length_append, List.length_cons] at enough
    simp only [spacedFields, List.append_assoc, List.cons_append]
    have read := readValue_spaced value isWritten depth bound (by omega)
      (stops_blank closes (.inr (.inr rfl)) later)
    simp only [readFields, readName_quote, readValue_blank blank.gap, read, Option.bind_eq_bind,
      Option.bind_some, skipSpace_mark closes (.inr (.inr rfl))]
  | bound + 1, next :: more =>
    simp only [spacedFields, List.length_append, List.length_cons] at enough
    simp only [spacedFields, List.append_assoc, List.cons_append]
    have read := readValue_spaced value isWritten depth bound (by omega)
      (stops_mark (.inl rfl) (spacing.line depth ++
        (spacedFields spacing depth (next :: more) ++ (closing ++ '}' :: later))))
    have fields := readFields_spaced next more others depth bound (by omega) closes later
    simp only [readFields, readName_quote, readValue_blank blank.gap, read, Option.bind_eq_bind,
      Option.bind_some, skipSpace_comma, readFields_blank (blank.line depth), fields]

end

/-- The text of a tree in a layout is read as the tree. -/
theorem parse?_spaced {json : Json} (written : json.IsWritten) :
    parse? (spaced spacing 0 json) = some json := by
  have read := @readValue_spaced spacing blank json written 0 (2 * (spaced spacing 0 json).length + 2)
    (by omega) [] fun c mem => by cases mem
  rw [List.append_nil] at read
  simp only [parse?, read, Option.bind_eq_bind, Option.bind_some]
  rfl

end Values

/-- The compact text of a tree is read as the tree. -/
theorem parse?_compact {json : Json} (written : json.IsWritten) :
    parse? (compact json) = some json := by
  have read := parse?_spaced Spacing.none_isBlank written
  rwa [spaced_none] at read

/-- The indented text of a tree is read as the tree. -/
theorem parse?_indented {json : Json} (written : json.IsWritten) :
    parse? (indented 0 json) = some json := by
  have read := parse?_spaced Spacing.lines_isBlank written
  rwa [spaced_lines] at read

end Dust.Json
