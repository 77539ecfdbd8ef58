import Dust.Proofs.Syntax.Written
import Dust.Proofs.Text.Bytes
import Dust.Syntax.Compile

/-!
# Cutting written text

A text that is written piece by piece is cut into the tokens of its pieces. How a piece is cut
depends on what follows it: a word ends only where no word character follows, and raw text only
where a brace opens something. `Cuts` says this of one piece together with the text after it, and
pieces in a row are put together by `Cuts.append`.
-/

namespace Dust

/-- The stream with more items in front. -/
def Stream.prepend {α : Type} (items : List α) (stream : Stream α) : Stream α :=
  { stream with items := items ++ stream.items }

/-- The tokens of a text that mean something. -/
def Token.meaningful (mode : TokenMode) (start : Nat) (text : List Char) : Stream Token :=
  (Token.stream mode start text).withoutBlanks

/-- A text before another one is cut into these tokens, and the other one is cut in a mode of its
own. -/
def Cuts (mode : TokenMode) (start : Nat) (text : List Char) (tokens : List Token)
    (after : TokenMode) (later : List Char) : Prop :=
  Token.meaningful mode start (text ++ later) =
    (Token.meaningful after (start + Text.byteSize text) later).prepend tokens

namespace Cuts

variable {mode after last : TokenMode} {start : Nat} {later : List Char} {opening : Span}

/-- Pieces in a row are cut into their tokens in a row. -/
theorem append {front back : List Char} {tokens more : List Token}
    (first : Cuts mode start front tokens after (back ++ later))
    (second : Cuts after (start + Text.byteSize front) back more last later) :
    Cuts mode start (front ++ back) (tokens ++ more) last later := by
  unfold Cuts at first second ⊢
  rw [List.append_assoc, first, second, Text.byteSize_append, ← Nat.add_assoc]
  simp [Stream.prepend]

/-- A text without characters is cut into no tokens. -/
theorem nil : Cuts mode start [] [] mode later := by
  simp [Cuts, Stream.prepend, Text.byteSize_nil]

/-- A token that is scanned is cut off, and dropped if it is blank. -/
theorem scanned {kind : TokenKind} {first : Char} {rest : List Char}
    (scan : mode.scan first (rest ++ later) = .token kind rest.length) :
    Cuts mode start (first :: rest)
      ([⟨kind, first :: rest, start⟩].filter (·.kind ≠ .whitespace))
      (mode.after ⟨kind, first :: rest, start⟩ later) later := by
  unfold Cuts Token.meaningful
  rw [List.cons_append, Token.stream, scan]
  simp only [List.take_left', List.drop_left', Stream.withoutBlanks, Stream.cons,
    Stream.prepend, List.filter_cons, Token.stop]
  split <;> simp

/-- A token that is scanned is cut off. -/
theorem token {kind : TokenKind} {first : Char} {rest : List Char}
    (scan : mode.scan first (rest ++ later) = .token kind rest.length)
    (solid : kind ≠ .whitespace) :
    Cuts mode start (first :: rest) [⟨kind, first :: rest, start⟩]
      (mode.after ⟨kind, first :: rest, start⟩ later) later := by
  have cut := @scanned mode start later kind first rest scan
  simpa [solid] using cut

/-- Inside a tag a token that does not end it is cut off. -/
theorem inside {kind : TokenKind} {first : Char} {rest : List Char}
    (scan : scanTag first (rest ++ later) = .token kind rest.length)
    (solid : kind ≠ .whitespace) (goesOn : kind ≠ .tagEnd ∧ kind ≠ .selfClose) :
    Cuts (.tag opening) start (first :: rest) [⟨kind, first :: rest, start⟩] (.tag opening)
      later := by
  have cut := @token (.tag opening) start later kind first rest scan solid
  simpa [TokenMode.after, goesOn] using cut

/-- Inside a tag a mark of one character is cut off. -/
theorem mark {kind : TokenKind} {mark : Char} (scan : scanTag mark later = .token kind 0)
    (solid : kind ≠ .whitespace) (goesOn : kind ≠ .tagEnd ∧ kind ≠ .selfClose) :
    Cuts (.tag opening) start [mark] [⟨kind, [mark], start⟩] (.tag opening) later :=
  @inside start later opening kind mark [] scan solid goesOn

/-- The end of a tag is cut off. -/
theorem tagEnd : Cuts (.tag opening) start ['}'] [⟨.tagEnd, ['}'], start⟩] .text later :=
  @token (.tag opening) start later .tagEnd '}' [] rfl (by decide)

/-- The end of a tag that closes itself is cut off. -/
theorem selfClose :
    Cuts (.tag opening) start ['/', '}'] [⟨.selfClose, ['/', '}'], start⟩] .text later :=
  @token (.tag opening) start later .selfClose '/' ['}'] rfl (by decide)

end Cuts

/-! ## Words, numbers and strings -/

/-- A word can go on with a digit. -/
theorem isWordPart_of_isDigit {c : Char} (digit : c.isDigit = true) : isWordPart c = true := by
  have bounds := toNat_of_isDigit digit
  have ascii : c.toNat < 128 := by omega
  simp [isWordPart, Text.isAlphanumeric, Text.isNumeric, ascii, digit]

/-- A word can go on with what it can begin with. -/
theorem isWordPart_of_isWordStart {c : Char} (begins : isWordStart c = true) :
    isWordPart c = true := by
  simp only [isWordStart, Bool.or_eq_true] at begins
  simp only [isWordPart, Text.isAlphanumeric, Bool.or_eq_true]
  rcases begins with mark | letter
  · exact .inl (.inl mark)
  · exact .inr (.inl letter)

/-- The code points of the letters of ASCII begin behind those of the digits. -/
theorem le_toNat_of_isAlpha {c : Char} (letter : c.isAlpha = true) : 65 ≤ c.toNat := by
  have upperOrLower : (decide ('A'.val ≤ c.val ∧ c.val ≤ 'Z'.val) ||
      (decide ('a'.val ≤ c.val) && decide (c.val ≤ 'z'.val))) = true := letter
  simp only [Bool.or_eq_true, Bool.and_eq_true, decide_eq_true_eq] at upperOrLower
  rcases upperOrLower with ⟨above, _⟩ | ⟨above, _⟩
  · exact UInt32.le_iff_toNat_le.mp above
  · have lower : 97 ≤ c.toNat := UInt32.le_iff_toNat_le.mp above
    omega

/-- No word begins with a digit. -/
theorem isDigit_eq_false_of_isWordStart {c : Char} (begins : isWordStart c = true) :
    c.isDigit = false := by
  cases digit : c.isDigit with
  | false => rfl
  | true =>
    have bounds := toNat_of_isDigit digit
    have ascii : c.toNat < 128 := by omega
    simp only [isWordStart, Text.isAlphabetic, ascii, ↓reduceIte, Bool.or_eq_true,
      decide_eq_true_eq] at begins
    rcases begins with (rfl | rfl) | letter
    · cases digit
    · cases digit
    · have above := le_toNat_of_isAlpha letter
      omega

/-- A word begins with none of the characters that it cannot begin with. -/
theorem ne_of_isWordStart {c other : Char} (begins : isWordStart c = true)
    (never : isWordStart other = false) : c ≠ other := by
  rintro rfl
  rw [begins] at never
  cases never

/-- No word begins with blank space. -/
theorem isTagSpace_eq_false_of_isWordStart {c : Char} (begins : isWordStart c = true) :
    isTagSpace c = false := by
  have differs (other : Char) (never : isWordStart other = false) : c ≠ other :=
    ne_of_isWordStart begins never
  simp [isTagSpace, differs '\t' (by decide), differs ' ' (by decide),
    differs '\r' (by decide), differs '\n' (by decide)]

/-- A word has a first character that words can begin with, and goes on as words can. -/
theorem isWord_eq_cons {name : String} (word : isWord name = true) :
    ∃ first rest, name.toList = first :: rest ∧ isWordStart first = true ∧
      ∀ c ∈ rest, isWordPart c = true := by
  unfold isWord at word
  split at word
  · cases word
  · rename_i first rest letters
    rw [Bool.and_eq_true, List.all_eq_true] at word
    exact ⟨first, rest, letters, word.1, word.2⟩

/-- In a tag a word is taken as far as it goes. -/
theorem scanTag_word {first : Char} {rest : List Char} (begins : isWordStart first = true) :
    scanTag first rest = .token .identifier (rest.takeWhile isWordPart).length := by
  have differs (other : Char) (never : isWordStart other = false) : first ≠ other :=
    ne_of_isWordStart begins never
  have digit := isDigit_eq_false_of_isWordStart begins
  have space := isTagSpace_eq_false_of_isWordStart begins
  unfold scanTag
  split
  all_goals try exact absurd rfl (differs _ (by decide))
  simp [differs '/' (by decide), differs '-' (by decide), digit, space, begins]

/-- In a tag a number begins with a digit. -/
theorem scanTag_digit {first : Char} {rest : List Char} (digit : first.isDigit = true) :
    scanTag first rest = .token .number (numberLength rest) := by
  unfold scanTag
  split
  all_goals try cases digit
  have slash : first ≠ '/' := by
    rintro rfl
    cases digit
  simp [slash, digit]

/-- In a tag a number begins with a minus that a digit follows. -/
theorem scanTag_minus {digit : Char} {rest : List Char} (isDigit : digit.isDigit = true) :
    scanTag '-' (digit :: rest) = .token .number (numberLength (digit :: rest)) := by
  simp [scanTag, isDigit]

/-- A number with a point goes on with the digits behind it. -/
theorem numberLength_of_point {text rest : List Char} {next : Char}
    (point : text.dropWhile Char.isDigit = '.' :: next :: rest) (digit : next.isDigit = true) :
    numberLength text =
      (text.takeWhile Char.isDigit).length + ((rest.takeWhile Char.isDigit).length + 2) := by
  simp only [numberLength, Text.drop_length_takeWhile, point, digit, ↓reduceIte]
  omega

/-- A number without digits behind a point is its first digits. -/
theorem numberLength_of_whole {text : List Char}
    (whole : ∀ next rest, text.dropWhile Char.isDigit = '.' :: next :: rest →
      next.isDigit = false) : numberLength text = (text.takeWhile Char.isDigit).length := by
  simp only [numberLength, Text.drop_length_takeWhile]
  split
  · rename_i next rest point
    simp [whole next rest point]
  · rfl

/-- Nothing that the digits of a number go on with: neither a digit, nor a point with a digit behind
it. -/
def EndsNumber (later : List Char) : Prop :=
  Stops Char.isDigit later ∧ ∀ next rest, later = '.' :: next :: rest → next.isDigit = false

/-- Digits do not go on with neither a digit nor a point. -/
theorem EndsNumber.of_stops {later : List Char}
    (stops : Stops (fun c => c.isDigit || c = '.') later) : EndsNumber later := by
  refine ⟨fun c next => ?_, fun next rest same => ?_⟩
  · have stop := stops c next
    simp only [Bool.or_eq_false_iff] at stop
    exact stop.1
  · subst same
    have stop := stops '.' rfl
    cases stop

/-- Digits are a number where it does not go on. -/
theorem numberLength_append {digits later : List Char} (all : ∀ c ∈ digits, c.isDigit = true)
    (ends : EndsNumber later) : numberLength (digits ++ later) = digits.length := by
  rw [numberLength_of_whole, takeWhile_append_of_stops all ends.1]
  rw [dropWhile_append_of_stops all ends.1]
  exact ends.2

/-- A string without quotes and escapes ends at the next quote. -/
theorem quotedLength?_append {text later : List Char}
    (plain : ∀ c ∈ text, c ≠ '"' ∧ c ≠ '\\') :
    quotedLength? (text ++ '"' :: later) = some (text.length + 1) := by
  induction text with
  | nil => rfl
  | cons c rest induction =>
    obtain ⟨quote, backslash⟩ := plain c List.mem_cons_self
    have more := induction fun c mem => plain c (List.mem_cons_of_mem _ mem)
    rw [List.cons_append, quotedLength?, more]
    · rfl
    · exact quote
    · intro _ _ same
      exact absurd same backslash

namespace Cuts

variable {start : Nat} {later : List Char} {opening : Span}

/-- A word is cut off where no word character follows. -/
theorem word {first : Char} {rest : List Char} (begins : isWordStart first = true)
    (all : ∀ c ∈ rest, isWordPart c = true) (stops : Stops isWordPart later) :
    Cuts (.tag opening) start (first :: rest) [⟨.identifier, first :: rest, start⟩]
      (.tag opening) later := by
  apply inside _ (by decide) (by decide)
  rw [scanTag_word begins, takeWhile_append_of_stops all stops]

/-- A name that is a word is cut off where no word character follows. -/
theorem name {name : String} (isWord : isWord name = true) (stops : Stops isWordPart later) :
    Cuts (.tag opening) start name.toList [⟨.identifier, name.toList, start⟩] (.tag opening)
      later := by
  obtain ⟨first, rest, letters, begins, all⟩ := isWord_eq_cons isWord
  rw [letters]
  exact word begins all stops

/-- A number is cut off where it does not go on. -/
theorem numeral {first : Char} {rest : List Char} (digit : first.isDigit = true)
    (all : ∀ c ∈ rest, c.isDigit = true) (ends : EndsNumber later) :
    Cuts (.tag opening) start (first :: rest) [⟨.number, first :: rest, start⟩] (.tag opening)
      later := by
  apply inside _ (by decide) (by decide)
  rw [scanTag_digit digit, numberLength_append all ends]

/-- A number is cut off where neither a digit nor a point follows. -/
theorem number {first : Char} {rest : List Char} (digit : first.isDigit = true)
    (all : ∀ c ∈ rest, c.isDigit = true)
    (stops : Stops (fun c => c.isDigit || c = '.') later) :
    Cuts (.tag opening) start (first :: rest) [⟨.number, first :: rest, start⟩] (.tag opening)
      later :=
  numeral digit all (.of_stops stops)

/-- A number with a minus is cut off where neither a digit nor a point follows. -/
theorem minus {first : Char} {rest : List Char} (digit : first.isDigit = true)
    (all : ∀ c ∈ rest, c.isDigit = true)
    (stops : Stops (fun c => c.isDigit || c = '.') later) :
    Cuts (.tag opening) start ('-' :: first :: rest) [⟨.number, '-' :: first :: rest, start⟩]
      (.tag opening) later := by
  apply inside _ (by decide) (by decide)
  have digits : ∀ c ∈ first :: rest, c.isDigit = true := List.forall_mem_cons.mpr ⟨digit, all⟩
  rw [List.cons_append, scanTag_minus digit, ← List.cons_append,
    numberLength_append digits (.of_stops stops)]

/-- A string is cut off at its closing quote. -/
theorem string {text : List Char} (plain : ∀ c ∈ text, c ≠ '"' ∧ c ≠ '\\') :
    Cuts (.tag opening) start ('"' :: (text ++ ['"']))
      [⟨.string, '"' :: (text ++ ['"']), start⟩] (.tag opening) later := by
  apply inside _ (by decide) (by decide)
  simp [scanTag, quotedLength?_append plain]

/-- Blank space between two words of a tag is cut off and dropped. -/
theorem space (stops : Stops isTagSpace later) :
    Cuts (.tag opening) start [' '] [] (.tag opening) later := by
  have none : later.takeWhile isTagSpace = [] :=
    @takeWhile_append_of_stops isTagSpace [] later (by simp) stops
  have scan : (TokenMode.tag opening).scan ' ' ([] ++ later) =
      .token .whitespace ([] : List Char).length := by
    simp [TokenMode.scan, scanTag, isTagSpace, none]
  have cut := @scanned (.tag opening) start later .whitespace ' ' [] scan
  simpa [TokenMode.after] using cut

end Cuts

/-! ## Raw text and tags -/

/-- The first mark with a brace behind it ends a text that holds none. -/
theorem distanceToMark?_append {mark : Char} {text later : List Char} (brace : mark ≠ '}')
    (free : ¬ [mark, '}'] <:+: text) :
    distanceToMark? mark (text ++ mark :: '}' :: later) = some text.length := by
  induction text with
  | nil => simp [distanceToMark?]
  | cons c rest induction =>
    have more := induction fun inside => free (inside.trans (List.suffix_cons _ _).isInfix)
    cases rest with
    | nil => simp_all [distanceToMark?]
    | cons next rest =>
      have apart : ¬ (c = mark ∧ next = '}') := by
        rintro ⟨rfl, rfl⟩
        exact free ⟨[], rest, rfl⟩
      simp only [List.cons_append] at more ⊢
      rw [distanceToMark?, if_neg apart, more]
      rfl

/-- Text without braces is raw up to where nothing raw follows. -/
theorem rawLength_append {text later : List Char} (free : '{' ∉ text)
    (stops : rawLength later = 0) : rawLength (text ++ later) = text.length := by
  induction text with
  | nil => exact stops
  | cons c rest induction =>
    rw [List.mem_cons, not_or] at free
    rw [List.cons_append, rawLength, if_neg fun opens => free.1 opens.1.symm, induction free.2]
    rfl

/-- Characters of a reference with a brace behind them are the inside of a reference. -/
theorem closesReference_append {text later : List Char}
    (all : ∀ c ∈ text, isReferencePart c = true) :
    closesReference (text ++ '}' :: later) = true := by
  induction text with
  | nil => rfl
  | cons c rest induction =>
    rw [List.cons_append, closesReference, all c List.mem_cons_self,
      induction fun c mem => all c (List.mem_cons_of_mem _ mem)]
    simp

/-- Nothing raw stands where a brace opens something. -/
theorem rawLength_of_opens {rest : List Char} (opens : Opening.ofText rest ≠ .text) :
    rawLength ('{' :: rest) = 0 := by
  rw [rawLength, if_pos ⟨rfl, opens⟩]

/-- What a brace with the character of a tag opens. -/
theorem Opening.ofText_sigil {sigil : Char} {kind : TokenKind} {rest : List Char}
    (named : TokenKind.ofSigil? sigil = some kind) (begins : beginsTag rest = true) :
    Opening.ofText (sigil :: rest) = .token kind 1 := by
  have differs (other : Char) (unnamed : TokenKind.ofSigil? other = none) : sigil ≠ other := by
    rintro rfl
    cases named.symm.trans unnamed
  rw [Opening.ofText_unmarked (differs '!' rfl) (differs '`' rfl) (differs '~' rfl)]
  simp [named, begins]

/-- What a brace opens with the characters of a reference up to a brace behind it. -/
theorem Opening.ofText_reference {first : Char} {rest : List Char}
    (begins : isWordStart first = true ∨ first = '.')
    (closes : closesReference (first :: rest) = true) :
    Opening.ofText (first :: rest) = .token .openReference 0 := by
  have differs (other : Char) (never : isWordStart other = false) (dot : other ≠ '.') :
      first ≠ other := by
    rcases begins with begins | rfl
    · exact ne_of_isWordStart begins never
    · exact dot.symm
  have tag : TokenKind.ofSigil? first = none := by
    unfold TokenKind.ofSigil?
    split
    all_goals try exact absurd rfl (differs _ (by decide) (by decide))
    rfl
  have word : (isWordStart first || first = '.') = true := by simpa using begins
  rw [Opening.ofText_unmarked (differs '!' (by decide) (by decide))
    (differs '`' (by decide) (by decide)) (differs '~' (by decide) (by decide))]
  simp [tag, word, closes]

/-- What a comment is to the brace before it. -/
theorem Opening.ofText_comment {content later : List Char} (free : ¬ ['!', '}'] <:+: content) :
    Opening.ofText ('!' :: (content ++ '!' :: '}' :: later)) =
      .token .comment (content.length + 3) := by
  simp [Opening.ofText, distanceToMark?_append (by decide) free]

namespace Cuts

variable {start : Nat} {later : List Char}

/-- Text without braces is cut off where nothing raw follows. -/
theorem raw {first : Char} {rest : List Char} (free : '{' ∉ first :: rest)
    (stops : rawLength later = 0) :
    Cuts .text start (first :: rest) [⟨.raw, first :: rest, start⟩] .text later := by
  rw [List.mem_cons, not_or] at free
  apply token _ (by decide)
  simp [TokenMode.scan, scanText, Ne.symm free.1, rawLength_append free.2 stops]

/-- A comment is cut off at its mark. -/
theorem comment {content : List Char} (free : ¬ ['!', '}'] <:+: content) :
    Cuts .text start ('{' :: '!' :: (content ++ ['!', '}']))
      [⟨.comment, '{' :: '!' :: (content ++ ['!', '}']), start⟩] .text later := by
  apply token _ (by decide)
  simp [TokenMode.scan, scanText, Opening.ofText_comment free]

/-- The opening of a tag is cut off before its inside. -/
theorem sigil {sigil : Char} {kind : TokenKind}
    (named : TokenKind.ofSigil? sigil = some kind) (begins : beginsTag later = true)
    (quoted : kind = .openPartial → later.head? = some '"') :
    ∃ opening,
      Cuts .text start ['{', sigil] [⟨kind, ['{', sigil], start⟩] (.tag opening) later := by
  have opens : kind.opensTag = true ∧ kind ≠ .whitespace := by
    unfold TokenKind.ofSigil? at named
    split at named <;> cases named <;> exact ⟨rfl, by decide⟩
  have scan : TokenMode.text.scan '{' ([sigil] ++ later) = .token kind [sigil].length := by
    simp [TokenMode.scan, scanText, Opening.ofText_sigil named begins]
  have cut := @token .text start later kind '{' [sigil] scan opens.2
  refine ⟨Token.span ⟨kind, ['{', sigil], start⟩, ?_⟩
  have name : ¬ (kind = .openPartial ∧ later.head?.any (· ≠ '"') = true) := by
    rintro ⟨isPartial, other⟩
    simp [quoted isPartial] at other
  simpa only [TokenMode.after, opens.1, if_neg name, ↓reduceIte] using cut

/-- The opening of a reference is cut off before its inside. -/
theorem brace (opens : Opening.ofText later = .token .openReference 0) :
    ∃ opening,
      Cuts .text start ['{'] [⟨.openReference, ['{'], start⟩] (.tag opening) later := by
  have scan : TokenMode.text.scan '{' ([] ++ later) =
      .token .openReference ([] : List Char).length := by
    simp [TokenMode.scan, scanText, opens]
  exact ⟨Token.span ⟨.openReference, ['{'], start⟩,
    @token .text start later .openReference '{' [] scan (by decide)⟩

end Cuts

end Dust
