import Dust.Syntax.Opening

/-!
# From text to tokens

One token after the other is taken off the front of the text. What a token is depends on whether
the text is outside of tags, inside a tag, or the name of a partial. Every token takes at least one
character, and begins where the one before it stops, so that the tokens tile the text.
-/

namespace Dust

/-- Where in a template the text is. -/
inductive TokenMode where
  /-- Outside of tags. -/
  | text
  /-- Inside the tag with this opening. -/
  | tag (opening : Span)
  /-- At the name of a partial without quotes, in the tag with this opening. -/
  | partialName (opening : Span)

/-- The next token of a text, as the number of characters it takes after the first one. -/
inductive Scan where
  /-- A token. -/
  | token (kind : TokenKind) (more : Nat)
  /-- A fault at as many characters. -/
  | fault (fault : SyntaxFault) (more : Nat)

/-- The number of characters before the next brace that opens something. -/
def rawLength : List Char → Nat
  | [] => 0
  | c :: rest =>
    if c = '{' ∧ Opening.ofText rest ≠ .text then 0 else rawLength rest + 1

/-- The number of characters up to the closing quote of a string and with it. A backslash takes the
meaning from the character after it. -/
def quotedLength? : List Char → Option Nat
  | [] => none
  | '"' :: _ => some 1
  | '\\' :: _ :: rest => (quotedLength? rest).map (· + 2)
  | _ :: rest => (quotedLength? rest).map (· + 1)

/-- The number of characters of the rest of a number: digits, and a point with digits after it. -/
def numberLength (text : List Char) : Nat :=
  let whole := (text.takeWhile Char.isDigit).length
  match text.drop whole with
  | '.' :: next :: rest =>
    if next.isDigit then whole + 2 + (rest.takeWhile Char.isDigit).length else whole
  | _ => whole

/-- The number of characters before the end of the name of a partial. -/
def partialNameLength : List Char → Nat
  | [] => 0
  | c :: rest =>
    if c = '}' ∨ c = ':' ∨ isTagSpace c ∨ (c = '/' ∧ rest.head? = some '}') then 0
    else partialNameLength rest + 1

/-- The next token outside of tags. -/
def scanText (first : Char) (rest : List Char) : Scan :=
  if first = '{' then
    match Opening.ofText rest with
    | .text => .token .raw (rawLength rest)
    | .token kind more => .token kind more
    | .unclosed fault => .fault fault 1
  else .token .raw (rawLength rest)

/-- The next token inside a tag. -/
def scanTag (first : Char) (rest : List Char) : Scan :=
  match first with
  | '}' => .token .tagEnd 0
  | '.' => .token .dot 0
  | '[' => .token .openBracket 0
  | ']' => .token .closeBracket 0
  | '|' => .token .pipe 0
  | ':' => .token .colon 0
  | '=' => .token .equals 0
  | '"' =>
    match quotedLength? rest with
    | some more => .token .string more
    | none => .fault .undelimitedString rest.length
  | _ =>
    if first = '/' ∧ rest.head? = some '}' then .token .selfClose 1
    else if first.isDigit || (first = '-' && (rest.head?.any Char.isDigit)) then
      .token .number (numberLength rest)
    else if isTagSpace first then .token .whitespace (rest.takeWhile isTagSpace).length
    else if isWordStart first then .token .identifier (rest.takeWhile isWordPart).length
    else .fault .unexpectedCharacter 0

namespace TokenMode

/-- The next token of a text that is not empty. -/
def scan : TokenMode → Char → List Char → Scan
  | text => scanText
  | tag _ => scanTag
  | partialName _ => fun _ rest => .token .partialName (partialNameLength rest)

/-- Where the text after a token is. -/
def after (mode : TokenMode) (token : Token) (rest : List Char) : TokenMode :=
  match mode with
  | text =>
    if token.kind.opensTag then
      if token.kind = .openPartial ∧ rest.head?.any (· ≠ '"') then partialName token.span
      else tag token.span
    else text
  | tag opening =>
    if token.kind = .tagEnd ∨ token.kind = .selfClose then text else tag opening
  | partialName opening => tag opening

/-- The fault of a text that ends here. -/
def failureAtEnd : TokenMode → Option Located
  | text => none
  | tag opening => some ⟨.unclosedTag, opening⟩
  | partialName opening => some ⟨.unclosedTag, opening⟩

end TokenMode

/-! ### How a token is scanned -/

/-- How a token in a tag is scanned. -/
inductive ScansTag : Char → List Char → TokenKind → Nat → Prop where
  /-- The end of the tag. -/
  | tagEnd {rest : List Char} : ScansTag '}' rest .tagEnd 0
  /-- A dot. -/
  | dot {rest : List Char} : ScansTag '.' rest .dot 0
  /-- An opening bracket. -/
  | openBracket {rest : List Char} : ScansTag '[' rest .openBracket 0
  /-- A closing bracket. -/
  | closeBracket {rest : List Char} : ScansTag ']' rest .closeBracket 0
  /-- The mark of a filter. -/
  | pipe {rest : List Char} : ScansTag '|' rest .pipe 0
  /-- The mark of a context. -/
  | colon {rest : List Char} : ScansTag ':' rest .colon 0
  /-- The mark of a parameter. -/
  | equals {rest : List Char} : ScansTag '=' rest .equals 0
  /-- A string up to its closing quote. -/
  | string {rest : List Char} {more : Nat} (closes : quotedLength? rest = some more) :
    ScansTag '"' rest .string more
  /-- The end of a tag that closes itself. -/
  | selfClose {rest : List Char} : ScansTag '/' ('}' :: rest) .selfClose 1
  /-- A number, with a minus only before a digit. -/
  | number {first : Char} {rest : List Char}
    (begins : first.isDigit = true ∨ first = '-' ∧ rest.head?.any Char.isDigit = true) :
    ScansTag first rest .number (numberLength rest)
  /-- Blank space as far as it goes. -/
  | space {first : Char} {rest : List Char} (blank : isTagSpace first = true) :
    ScansTag first rest .whitespace (rest.takeWhile isTagSpace).length
  /-- A word as far as it goes. -/
  | word {first : Char} {rest : List Char} (begins : isWordStart first = true) :
    ScansTag first rest .identifier (rest.takeWhile isWordPart).length

/-- A token in a tag is scanned in one of these ways. -/
theorem scansTag_of_scanTag {first : Char} {rest : List Char} {kind : TokenKind} {more : Nat}
    (scan : scanTag first rest = .token kind more) : ScansTag first rest kind more := by
  unfold scanTag at scan
  split at scan
  any_goals cases scan; constructor
  · split at scan <;> cases scan
    exact .string (by assumption)
  · split at scan
    · rename_i closes
      obtain ⟨rfl, next⟩ := closes
      obtain ⟨later, rfl⟩ := List.head?_eq_some_iff.mp next
      cases scan
      exact .selfClose
    · split at scan
      · rename_i digit
        cases scan
        exact .number (by simpa using digit)
      · split at scan
        · cases scan
          exact .space (by assumption)
        · split at scan <;> cases scan
          exact .word (by assumption)

namespace TokenMode

/-- How a token is scanned, by where the text is. -/
inductive Scans : TokenMode → Char → List Char → TokenKind → Nat → Prop where
  /-- Text outside of tags up to the next brace that opens something. -/
  | raw {first : Char} {rest : List Char} : Scans text first rest .raw (rawLength rest)
  /-- What a brace opens. -/
  | opened {rest : List Char} {kind : TokenKind} {more : Nat}
    (opens : Opening.ofText rest = .token kind more) : Scans text '{' rest kind more
  /-- A token in a tag. -/
  | inTag {opening : Span} {first : Char} {rest : List Char} {kind : TokenKind} {more : Nat}
    (scan : scanTag first rest = .token kind more) : Scans (tag opening) first rest kind more
  /-- The name of a partial up to where it ends. -/
  | partialName {opening : Span} {first : Char} {rest : List Char} :
    Scans (partialName opening) first rest .partialName (partialNameLength rest)

/-- A token is scanned in one of these ways. -/
theorem scans_of_scan {mode : TokenMode} {first : Char} {rest : List Char} {kind : TokenKind}
    {more : Nat} (scan : mode.scan first rest = .token kind more) :
    mode.Scans first rest kind more := by
  cases mode with
  | text =>
    simp only [TokenMode.scan, scanText] at scan
    split at scan
    · rename_i brace
      subst brace
      split at scan <;> cases scan
      · exact .raw
      · exact .opened (by assumption)
    · cases scan
      exact .raw
  | tag opening => exact .inTag scan
  | partialName opening =>
    cases scan
    exact .partialName

end TokenMode

/-- The tokens of a text that begins at a byte of the source. -/
def Token.stream (mode : TokenMode) (start : Nat) (text : List Char) : Stream Token :=
  match text with
  | [] => ⟨[], mode.failureAtEnd⟩
  | first :: rest =>
    match mode.scan first rest with
    | .fault fault more =>
      ⟨[], some ⟨fault, start, start + Text.byteSize (first :: rest.take more)⟩⟩
    | .token kind more =>
      let token : Token := ⟨kind, first :: rest.take more, start⟩
      (Token.stream (mode.after token (rest.drop more)) token.stop (rest.drop more)).cons token
termination_by text.length

end Dust
