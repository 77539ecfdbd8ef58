import Dust.Proofs.Filter.Inert

/-!
# Reading JSON after a filter

A value that is written as JSON and read at once is a text only if it was one, and then it is the
same text. A string of JSON begins with a quote. So no text is read from what is inert, nor from
what is escaped for a script or with percent signs, since neither begins with a quote.
-/

namespace Dust

namespace Json

/-- JSON finds no string at the start of a text. -/
def BeginsNoString (text : List Char) : Prop :=
  ∀ rest, skipSpace text ≠ '"' :: rest

/-- No string is found in a text without quotes. -/
theorem BeginsNoString.of_not_mem {text : List Char} (noQuote : '"' ∉ text) :
    BeginsNoString text := by
  intro rest begins
  have mem : '"' ∈ skipSpace text := begins ▸ List.mem_cons_self
  exact noQuote ((List.dropWhile_sublist _).mem mem)

/-- A tree that is a string is read where a quote is, behind white space. -/
theorem skipSpace_of_readValue {bound : Nat} {text written rest : List Char}
    (read : readValue bound text = some (.string written, rest)) :
    ∃ more, skipSpace text = '"' :: more := by
  cases bound with
  | zero => cases read
  | succ bound =>
    unfold readValue at read
    split at read
    case h_1 | h_2 | h_3 => cases read
    case h_4 more begins => exact ⟨more, begins⟩
    case h_5 | h_6 =>
      split at read
      · cases read
      · obtain ⟨_, -, same⟩ := Option.bind_eq_some_iff.mp read
        cases same
    case h_7 =>
      obtain ⟨_, -, same⟩ := Option.bind_eq_some_iff.mp read
      cases same

/-- The tree of a text in which no string is found is no string. -/
theorem BeginsNoString.parse? {text written : List Char} (noString : BeginsNoString text) :
    parse? text ≠ some (.string written) := by
  intro parsed
  obtain ⟨⟨json, rest⟩, read, whole⟩ := Option.bind_eq_some_iff.mp parsed
  dsimp only at whole
  split at whole
  · cases whole
    obtain ⟨more, begins⟩ := skipSpace_of_readValue read
    exact noString more begins
  · cases whole

end Json

namespace Value

/-! ### Values as JSON -/

mutual

/-- The tree of a value is written as JSON is. -/
theorem toJson_isWritten (value : Value) : value.toJson.IsWritten := by
  cases value with
  | null | bool b => exact trivial
  | integer n => exact Json.ofInt_isWritten n.toInt
  | float x => exact Json.ofFloat_isWritten x
  | string text => exact Json.ofString_isWritten text
  | list items => exact toJsonItems_areWritten items
  | map entries => exact toJsonFields_areWritten entries

/-- The trees of the items of a list are written as JSON is. -/
theorem toJsonItems_areWritten (items : List Value) :
    Json.AreWrittenItems (toJsonItems items) := by
  cases items with
  | nil => exact trivial
  | cons item rest => exact ⟨toJson_isWritten item, toJsonItems_areWritten rest⟩

/-- The trees of the entries of a map are written as JSON is. -/
theorem toJsonFields_areWritten (entries : List (String × Value)) :
    Json.AreWrittenFields (toJsonFields entries) := by
  match entries with
  | [] => exact trivial
  | (key, value) :: rest =>
    exact ⟨⟨key.toList, rfl⟩, toJson_isWritten value, toJsonFields_areWritten rest⟩

end

/-- The text of a value is read as its tree. -/
theorem ofJsonText?_jsonText (value : Value) :
    ofJsonText? value.jsonText = ofJson? Json.maxDepth value.toJson := by
  unfold ofJsonText? jsonText
  rw [String.toList_ofList, Json.parse?_compact value.toJson_isWritten]
  rfl

/-- Only a string of JSON has a text as its value. -/
theorem eq_string_of_ofJson? {room : Nat} {json : Json} {text : String}
    (read : ofJson? room json = some (.string text)) : ∃ written, json = .string written := by
  cases json with
  | string written => exact ⟨written, rfl⟩
  | null | bool => cases read
  | number written =>
    obtain ⟨numeral, -, same⟩ := Option.map_eq_some_iff.mp read
    unfold ofNumeral at same
    split at same
    · cases same
    · split at same <;> cases same
  | array | object =>
    unfold ofJson? at read
    split at read
    · cases read
    · obtain ⟨_, -, same⟩ := Option.map_eq_some_iff.mp read
      cases same

/-- A result that is no text is none also if nothing stands in its place when there is no result. -/
theorem text?_getD {read : Option Value} (noText : ∀ text, read ≠ some (.string text)) :
    (read.getD .null).text? = none := by
  rcases read with _ | ⟨_ | _ | _ | _ | text | _ | _⟩
  case some.string => exact absurd rfl (noText text)
  all_goals rfl

end Value

namespace Filter

/-- A text that is written as JSON and read is the same text. -/
theorem ofJsonText_toJsonText (text : String) :
    ofJsonText (toJsonText (.string text)) = .string text := by
  have read := Value.ofJsonText?_jsonText (.string text)
  simp only [Value.toJson, Json.ofString, Value.ofJson?, Json.unquote?_quote, Option.map_some,
    String.ofList_toList] at read
  simp only [toJsonText, ofJsonText, read, Option.getD_some]

/-- What is no text is still none after it is written as JSON and read. -/
theorem text?_ofJsonText_toJsonText {value : Value} (noText : value.text? = none) :
    (ofJsonText (toJsonText value)).text? = none := by
  refine Value.text?_getD fun text read => ?_
  rw [Value.ofJsonText?_jsonText] at read
  obtain ⟨written, tree⟩ := Value.eq_string_of_ofJson? read
  cases value with
  | string => cases noText
  | float x =>
    unfold Value.toJson Json.ofFloat at tree
    split at tree <;> cases tree
  | _ => cases tree

/-- No text is read from a text in which JSON finds no string. -/
theorem text?_ofJsonText {text : String} (noString : Json.BeginsNoString text.toList) :
    (ofJsonText (.string text)).text? = none := by
  refine Value.text?_getD fun read found => ?_
  obtain ⟨json, parsed, value⟩ := Option.bind_eq_some_iff.mp found
  obtain ⟨written, rfl⟩ := Value.eq_string_of_ofJson? value
  exact noString.parse? parsed

/-- JSON finds no string in what is escaped for a script: every quote has a backslash before it. -/
theorem escapeScript_beginsNoString (text : List Char) :
    Json.BeginsNoString (escapeScript text) := by
  induction text with
  | nil => exact nofun
  | cons c rest induction =>
    intro more begins
    have split : escapeScript (c :: rest) = scriptCharacter c ++ escapeScript rest := rfl
    rw [split] at begins
    unfold scriptCharacter at begins
    split at begins
    case h_10 noQuote _ _ _ _ _ =>
      by_cases space : Json.isSpace c = true
      · exact induction more (by simpa [Json.skipSpace, space] using begins)
      · simp only [Json.skipSpace, List.singleton_append, List.dropWhile_cons, space] at begins
        exact noQuote (List.cons.inj begins).1
    all_goals cases begins

/-- There is no quote in a text with percent signs, unless quotes are kept. -/
theorem quote_not_mem_percent {kept : List Char} (noQuote : '"' ∉ kept) (text : List Char) :
    '"' ∉ text.flatMap (percentCharacter kept) := by
  intro mem
  obtain ⟨c, -, inside⟩ := List.mem_flatMap.mp mem
  unfold percentCharacter at inside
  split at inside
  · rename_i stays
    obtain rfl := List.mem_singleton.mp inside
    exact noQuote (by simpa using stays)
  · obtain ⟨byte, -, digit⟩ := List.mem_flatMap.mp inside
    exact (percentByte_isInert byte).quote_not_mem digit

end Filter

end Dust
