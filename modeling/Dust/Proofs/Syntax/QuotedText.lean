import Dust.Proofs.Syntax.PathSpelling
import Dust.Proofs.Syntax.SpecialCharacters
import Dust.Store.Load
import Mathlib.Algebra.Ring.Parity
import Mathlib.Data.List.DropRight

/-!
# Quoted text

A text can be the value of a parameter between quotes. Its quotes are escaped and its braces are
written as tags. Backslashes are looked at twice, and by different rules: where the string ends, a
backslash takes the meaning from the character after it, whatever that is, and in the text that has
been read only those before quotes are undone. Both rules agree if the backslashes before every
quote of the text, and those at its end, stand in pairs.
-/

namespace Dust

/-! ### How a text is quoted -/

/-- A character between quotes: a quote has a backslash in front of it, and an opening brace is the
tag of a special character. -/
def quotedCharacter : Char → List Char
  | '"' => ['\\', '"']
  | '{' => specialTag ['l', 'b']
  | c => [c]

/-- A text between quotes. -/
def quoteText (text : List Char) : List Char :=
  text.flatMap quotedCharacter

/-- Every run of backslashes that a quote or the end of the text follows directly is even. -/
def PairsBackslashes (text : List Char) : Prop :=
  ∀ front back, text = front ++ back → (∀ c ∈ back.head?, c = '"') →
    Even (front.rtakeWhile (· = '\\')).length

/-- A text can be looked through place by place. -/
theorem pairsBackslashes_iff {text : List Char} :
    PairsBackslashes text ↔
      ∀ place ≤ text.length, (text.drop place).head?.all (· = '"') = true →
        Even ((text.take place).rtakeWhile (· = '\\')).length := by
  constructor
  · intro pairs place _ next
    refine pairs _ _ (List.take_append_drop place text).symm fun c mem => ?_
    simpa [Option.mem_def.mp mem] using next
  · rintro pairs front back rfl next
    have at_front := pairs front.length (by simp)
    rw [List.drop_left, List.take_left] at at_front
    refine at_front ?_
    cases back with
    | nil => rfl
    | cons c rest => simpa using next

instance (text : List Char) : Decidable (PairsBackslashes text) :=
  decidable_of_iff' _ pairsBackslashes_iff

/-! ### Escapes -/

/-- The characters of a text are written one after the other. -/
theorem quoteText_cons (c : Char) (rest : List Char) :
    quoteText (c :: rest) = quotedCharacter c ++ quoteText rest :=
  List.flatMap_cons

/-- A text with a backslash in front of every quote. -/
def escapeQuotes (text : List Char) : List Char :=
  text.flatMap fun c => if c = '"' then ['\\', '"'] else [c]

/-- Nothing begins with a quote if the quotes are escaped. -/
theorem escapeQuotes_ne_cons {text behind : List Char} : escapeQuotes text ≠ '"' :: behind := by
  cases text with
  | nil => simp [escapeQuotes]
  | cons c rest =>
    rw [escapeQuotes, List.flatMap_cons]
    split
    · simp
    · rename_i other
      simp [other]

/-- Undoing the escapes gives the text back. -/
theorem unescape_escapeQuotes (text : List Char) : unescape (escapeQuotes text) = text := by
  induction text with
  | nil => rfl
  | cons c rest induction =>
    have split : escapeQuotes (c :: rest) =
        (if c = '"' then ['\\', '"'] else [c]) ++ escapeQuotes rest := List.flatMap_cons
    rw [split]
    by_cases quote : c = '"'
    · simp [quote, unescape, induction]
    · rw [if_neg quote, List.singleton_append, unescape, induction]
      intro behind _ same
      exact escapeQuotes_ne_cons same

/-! ### Braces -/

/-- A character as text of a string in which the escapes are still to be undone. -/
def bracedCharacter (c : Char) : List Char :=
  if c = '{' then specialTag ['l', 'b'] else [c]

/-- A character is written as it is or as a tag. -/
theorem spells_bracedCharacter (c : Char) : Spells c (bracedCharacter c) := by
  unfold bracedCharacter
  split
  · rename_i brace
    subst brace
    exact .special rfl
  · exact .plain ‹_›

/-- Quotes are escaped before braces are written as tags. -/
theorem quoteText_eq_flatMap (text : List Char) :
    quoteText text = (escapeQuotes text).flatMap bracedCharacter := by
  rw [quoteText, escapeQuotes, List.flatMap_assoc]
  refine congrArg (List.flatMap · text) (funext fun c => ?_)
  unfold quotedCharacter
  split
  · rfl
  · rfl
  · rename_i noQuote noBrace
    have other : ¬ c = '"' := noQuote
    have noTag : ¬ c = '{' := noBrace
    simp [other, noTag, bracedCharacter]

/-- Without braces there are no tags. -/
theorem flatMap_bracedCharacter_eq_self {text : List Char}
    (free : '{' ∉ text.flatMap bracedCharacter) : text.flatMap bracedCharacter = text := by
  induction text with
  | nil => rfl
  | cons c rest induction =>
    rw [List.flatMap_cons, List.mem_append, not_or] at free
    have other : c ≠ '{' := by
      rintro rfl
      exact free.1 (by decide)
    simp [bracedCharacter, other, induction free.2]

/-- The text of a string is joined with its escapes undone. -/
theorem Body.unescaped_plainBody (text : String) :
    (plainBody text).foldl (fun joined part => Body.push joined part.unescaped) [] =
      plainBody (String.ofList (unescape text.toList)) := by
  by_cases empty : text = ""
  · subst empty
    rfl
  · rw [plainBody, if_neg empty, List.foldl_cons, List.foldl_nil, Part.unescaped, nil_push_text]

/-- The body of a quoted text is the text. -/
theorem Token.stringBody_quoteText (source text : List Char) (start : Nat) :
    Token.stringBody source ⟨.string, '"' :: (quoteText text ++ ['"']), start⟩ =
      .ok (Dust.plainBody (String.ofList text)) := by
  unfold Token.stringBody
  rw [inside_quoted, quoteText_eq_flatMap]
  split
  · rw [Body.ofText_spelled spells_bracedCharacter]
    simp only [bind, Except.bind]
    rw [Body.unescaped_plainBody, String.toList_ofList, unescape_escapeQuotes]
  · rename_i free
    rw [Token.plainBody, inside_quoted, flatMap_bracedCharacter_eq_self free,
      unescape_escapeQuotes, Body.nil_push_text]

/-- A body with no text but one is this text. -/
theorem text?_plainBody (text : String) : Body.text? (plainBody text) = some text := by
  by_cases empty : text = ""
  · simp [plainBody, empty, Body.text?]
  · simp [plainBody, empty, Body.text?]

/-! ### Where a quoted text ends -/

/-- A text inside of a string, in which no quote ends it: every quote has a backslash in front of
it, and every backslash goes together with a character after it. -/
inductive StaysOpen : List Char → Prop where
  /-- Nothing. -/
  | nil : StaysOpen []
  /-- A character that is neither a quote nor a backslash. -/
  | plain {c : Char} {rest : List Char} (noQuote : c ≠ '"') (noEscape : c ≠ '\\')
    (behind : StaysOpen rest) : StaysOpen (c :: rest)
  /-- A backslash with the character after it. -/
  | pair {c : Char} {rest : List Char} (behind : StaysOpen rest) : StaysOpen ('\\' :: c :: rest)

/-- A string ends with the quote after such a text. -/
theorem quotedLength?_of_staysOpen {text : List Char} (stays : StaysOpen text)
    (later : List Char) : quotedLength? (text ++ '"' :: later) = some (text.length + 1) := by
  induction stays with
  | nil => rfl
  | plain noQuote noEscape behind induction => simp [quotedLength?, noEscape, induction]
  | pair behind induction => simp [quotedLength?, induction]

/-- Characters that are neither quotes nor backslashes can stand before such a text. -/
theorem StaysOpen.append {front rest : List Char} (plain : ∀ c ∈ front, c ≠ '"' ∧ c ≠ '\\')
    (stays : StaysOpen rest) : StaysOpen (front ++ rest) := by
  induction front with
  | nil => exact stays
  | cons c more induction =>
    obtain ⟨noQuote, noEscape⟩ := plain c List.mem_cons_self
    exact .plain noQuote noEscape (induction fun d mem => plain d (List.mem_cons_of_mem _ mem))

/-- What is written for a character that is no quote has no quote, and no backslash behind its
first character. -/
theorem quotedCharacter_eq_cons {c : Char} (noQuote : c ≠ '"') :
    ∃ first more, quotedCharacter c = first :: more ∧ first ≠ '"' ∧ (c ≠ '\\' → first ≠ '\\') ∧
      ∀ d ∈ more, d ≠ '"' ∧ d ≠ '\\' := by
  unfold quotedCharacter
  split
  · exact absurd rfl noQuote
  · exact ⟨'{', _, rfl, by decide, fun _ => by decide, by simp⟩
  · exact ⟨c, [], rfl, noQuote, id, by simp⟩

/-- A run at the end of a text goes on in front of it only if it is the whole text. -/
theorem length_rtakeWhile_append (runs : Char → Bool) (before text : List Char) :
    ((before ++ text).rtakeWhile runs).length =
      (text.rtakeWhile runs).length +
        if (text.rtakeWhile runs).length = text.length then (before.rtakeWhile runs).length
        else 0 := by
  simp only [List.rtakeWhile, List.reverse_append, List.length_reverse, List.takeWhile_append]
  split
  · rename_i whole
    simp [whole]
  · rfl

/-- What is behind an even run of backslashes, or behind none, has its backslashes in pairs. -/
theorem PairsBackslashes.behind {before rest : List Char} (pairs : PairsBackslashes (before ++ rest))
    (even : Even (before.rtakeWhile (· = '\\')).length) : PairsBackslashes rest := by
  intro front back same next
  have both := pairs (before ++ front) back (by rw [same, List.append_assoc]) next
  rw [length_rtakeWhile_append] at both
  split at both
  · exact (Nat.even_add.mp both).mpr even
  · exact both

/-- A backslash that is not the last of an even run has a character after it that is no quote. -/
theorem PairsBackslashes.cases {rest : List Char} (pairs : PairsBackslashes ('\\' :: rest)) :
    ∃ c behind, rest = c :: behind ∧ c ≠ '"' := by
  cases rest with
  | nil => exact absurd (pairs ['\\'] [] rfl (by simp)) (by decide)
  | cons c behind =>
    refine ⟨c, behind, rfl, ?_⟩
    rintro rfl
    exact absurd (pairs ['\\'] ('"' :: behind) rfl (by simp)) (by decide)

/-- A text whose backslashes stand in pairs where it matters leaves its string open. -/
theorem PairsBackslashes.staysOpen : ∀ {text : List Char},
    PairsBackslashes text → StaysOpen (quoteText text)
  | [], _ => .nil
  | c :: rest, pairs => by
    by_cases backslash : c = '\\'
    · subst backslash
      obtain ⟨next, later, rfl, noQuote⟩ := pairs.cases
      obtain ⟨first, more, written, -, -, plain⟩ := quotedCharacter_eq_cons noQuote
      have pairsLater : PairsBackslashes later := @behind ['\\', next] later pairs (by
        by_cases again : next = '\\' <;> simp [List.rtakeWhile, again])
      rw [quoteText_cons, quoteText_cons, written]
      exact .pair (pairsLater.staysOpen.append plain)
    · have pairsRest : PairsBackslashes rest := @behind [c] rest pairs (by
        simp [List.rtakeWhile, backslash])
      by_cases quote : c = '"'
      · subst quote
        exact .pair pairsRest.staysOpen
      · obtain ⟨first, more, written, noQuote, noEscape, plain⟩ := quotedCharacter_eq_cons quote
        rw [quoteText_cons, written]
        exact .plain noQuote (noEscape backslash) (pairsRest.staysOpen.append plain)

/-- A quoted text is cut off at its closing quote. -/
theorem Cuts.quoted {text : List Char} (pairs : PairsBackslashes text) {opening : Span}
    {start : Nat} {later : List Char} :
    Cuts (.tag opening) start ('"' :: (quoteText text ++ ['"']))
      [⟨.string, '"' :: (quoteText text ++ ['"']), start⟩] (.tag opening) later := by
  apply inside _ (by decide) (by decide)
  simp [scanTag, quotedLength?_of_staysOpen pairs.staysOpen]

/-! ### Calls with a quoted text -/

/-- A tag that calls a helper with a quoted text as its only parameter. -/
def quotedCall (helper key text : String) : String :=
  String.ofList ('{' :: '@' :: (helper.toList ++ ' ' :: (key.toList ++
    '=' :: '"' :: (quoteText text.toList ++ ['"', '/', '}']))))

section Call

variable {helper key text : String}

/-- The name of the helper that a call begins with. -/
def Token.calledName (helper : String) : Token :=
  ⟨.identifier, helper.toList, 2⟩

/-- The name of the parameter of a call. -/
def Token.calledKey (helper key : String) : Token :=
  ⟨.identifier, key.toList, (calledName helper).stop + 1⟩

/-- The string of a call. -/
def Token.calledText (helper key text : String) : Token :=
  ⟨.string, '"' :: (quoteText text.toList ++ ['"']), (calledKey helper key).stop + 1⟩

/-- The opening of a call. -/
def Token.callOpening : Token :=
  ⟨.openHelper, ['{', '@'], 0⟩

/-- The tokens of a call behind its opening. -/
def Token.ofCall (helper key text : String) : List Token :=
  [calledName helper, calledKey helper key, ⟨.equals, ['='], (calledKey helper key).stop⟩,
    calledText helper key text, ⟨.selfClose, ['/', '}'], (calledText helper key text).stop⟩]

/-- The pieces of a call. -/
theorem toList_quotedCall :
    (quotedCall helper key text).toList =
      ['{', '@'] ++ (helper.toList ++ ([' '] ++ (key.toList ++ (['='] ++
        ((Token.calledText helper key text).text ++ ['/', '}']))))) := by
  simp [quotedCall, Token.calledText]

/-- A call is cut into the names of the helper and its parameter, the string and the marks around
them. -/
theorem cuts_quotedCall (isHelper : isWord helper = true) (isKey : isWord key = true)
    (pairs : PairsBackslashes text.toList) :
    Cuts .text 0 (quotedCall helper key text).toList
      (Token.callOpening :: Token.ofCall helper key text) .text [] := by
  have begins := ((Begins.word isHelper (by decide : TokenKind.openHelper ≠ .openPartial)).append
    ([' '] ++ (key.toList ++
      (['='] ++ ('"' :: (quoteText text.toList ++ ['"']) ++ ['/', '}']))))).append []
  obtain ⟨opening, first⟩ := @Cuts.sigil 0 _ '@' .openHelper rfl begins.tag begins.quoted
  have space : Stops isTagSpace (key.toList ++ (['='] ++
      ('"' :: (quoteText text.toList ++ ['"']) ++ ['/', '}'])) ++ []) := by
    rw [List.append_assoc]
    exact stops_isWord isKey
  rw [toList_quotedCall]
  exact first.append ((Cuts.name isHelper (.cons (by decide))).append ((Cuts.space space).append
    ((Cuts.name isKey (.cons (by decide))).append
      ((Cuts.mark rfl (by decide) (by decide)).append
        ((Cuts.quoted pairs).append Cuts.selfClose)))))

/-- The part that a call is read as. -/
def Part.ofCall (helper key text : String) : Part :=
  .element (.helper (Token.calledName helper).identifier)
    [⟨(Token.calledKey helper key).identifier, .literal (.string text)⟩] none []
    ⟨0, (Token.calledText helper key text).stop + 2⟩

/-- The tokens of a call are read as the call. -/
theorem Segment.read_call (whitespace : Whitespace) (source : List Char) :
    Segment.read ⟨source, none⟩ (Token.stringBody source) whitespace Token.callOpening
      (Token.ofCall helper key text) = .ok (.part (.ofCall helper key text), []) := by
  let input : Input := ⟨source, none⟩
  let equals : Token := ⟨.equals, ['='], (Token.calledKey helper key).stop⟩
  let close : Token := ⟨.selfClose, ['/', '}'], (Token.calledText helper key text).stop⟩
  have value : Argument.read input (Token.stringBody source)
      [Token.calledText helper key text, close] = .ok (.literal (.string text), [close]) := by
    simp only [Argument.read, Token.calledText, Token.stringBody_quoteText, Argument.ofBody,
      String.ofList_toList, text?_plainBody, bind, Except.bind]
  have params : Param.readAll input (Token.stringBody source)
      [Token.calledKey helper key, equals, Token.calledText helper key text, close] =
        .ok ([⟨(Token.calledKey helper key).identifier, .literal (.string text)⟩], [close]) :=
    Param.readAll_cons rfl rfl value (by rw [Param.readAll]; rfl)
  have span : Token.callOpening.span.cover close.span =
      ⟨0, (Token.calledText helper key text).stop + 2⟩ :=
    congrArg₂ Span.mk (Nat.zero_min _) (Nat.max_eq_right (Nat.le_add_left 2 _))
  have read : Segment.readElement input (Token.stringBody source) Token.callOpening
      (.helper (Token.calledName helper).identifier) (Token.calledName helper).string
      [Token.calledKey helper key, equals, Token.calledText helper key text, close] =
        .ok (.part (.ofCall helper key text), []) := by
    have taken : input.takeTagEnd [close] = .ok (close, []) := rfl
    simp only [Segment.readElement, params, taken, span, bind, Except.bind]
    rfl
  exact read

end Call

/-- Every text with its backslashes in pairs comes back from its quotes. A call of a helper with the
quoted text as its only parameter is compiled, whatever becomes of layout, to a template with
nothing but the call, which closes itself and has the text for its parameter, be there quotes,
braces, line ends, tags or comments in it. -/
theorem compileSource_quotedCall (whitespace : Whitespace) {helper key text : String}
    (isHelper : isWord helper = true) (isKey : isWord key = true)
    (pairs : PairsBackslashes text.toList) :
    let source := quotedCall helper key text
    let nameStop := 2 + Text.byteSize helper.toList
    let keyStop := nameStop + 1 + Text.byteSize key.toList
    compileSource whitespace source = .ok {
      source
      body := [.element (.helper ⟨helper, ⟨2, nameStop⟩⟩)
        [⟨⟨key, ⟨nameStop + 1, keyStop⟩⟩, .literal (.string text)⟩] none []
        ⟨0, Text.byteSize source.toList⟩]
      blocks := []
      path := none } := by
  intro source nameStop keyStop
  have compiled : Template.compile whitespace source =
      .ok ⟨source, [.ofCall helper key text], [], none⟩ :=
    Template.compile_of_part (cuts_quotedCall isHelper isKey pairs)
      (Segment.read_call whitespace source.toList)
  have stop : (Token.calledText helper key text).stop + 2 = Text.byteSize source.toList := by
    rw [toList_quotedCall]
    simp only [Text.byteSize_append, Token.stop, Token.calledText, Token.calledKey,
      Token.calledName]
    have opening : Text.byteSize ['{', '@'] = 2 := rfl
    have space : Text.byteSize [' '] = 1 := rfl
    have equals : Text.byteSize ['='] = 1 := rfl
    have close : Text.byteSize ['/', '}'] = 2 := rfl
    omega
  rw [compileSource, compiled, Part.ofCall, stop, Token.identifier, Token.identifier,
    Token.calledName, Token.calledKey, Token.string_name, Token.string_name]
  rfl

/-- Quotes behind pairs of backslashes and behind none, tags, an open comment and line ends are
quoted, with a backslash before another character and a pair of them at the end. -/
theorem compileSource_quotedCall_escapes :
    let text := "a\"b\\\\\"\\c \x7bx\x7d\x7b! \n\\\\"
    quotedCall "h" "k" text =
        "\x7b@h k=\"a\\\"b\\\\\\\"\\c \x7b~lb\x7dx\x7d\x7b~lb\x7d! \n\\\\\"/\x7d" ∧
      PairsBackslashes text.toList ∧
      ∃ span, (compileSource .compress (quotedCall "h" "k" text)).map Template.body =
        .ok [.element (.helper ⟨"h", ⟨2, 3⟩⟩) [⟨⟨"k", ⟨4, 5⟩⟩, .literal (.string text)⟩] none []
          span] := by
  intro text
  have pairs : PairsBackslashes text.toList := by decide
  have compiled := compileSource_quotedCall .compress (by decide : isWord "h" = true)
    (by decide : isWord "k" = true) pairs
  exact ⟨by decide, pairs, _, by rw [compiled]; rfl⟩

end Dust
