import Dust.Proofs.Syntax.MovedPaths
import Dust.Proofs.Syntax.Yields

/-!
# Paths as they are spelled

A path can be spelled in more than one way: a position behind a dot or in brackets, with zeros in
front, and with blank space inside of the brackets. So a path is taken as what the reader makes of
its text inside a tag. The text is cut into the same tokens wherever it stands in a tag and whatever
follows it, as long as the last word or number of it does not go on. So it goes on with more keys,
stands in the brackets of another path, and is what a reference compiles to.
-/

namespace Dust

/-! ## Cutting moved text -/

/-- A number goes as far before a text that does not go on with it as at the end. -/
theorem numberLength_before {text later : List Char} (stops : Stops Char.isDigit later)
    (ends : text.dropWhile Char.isDigit = [] → EndsNumber later) :
    numberLength (text ++ later) = numberLength text := by
  have behind := @dropWhile_before Char.isDigit text later stops
  have whole := @takeWhile_before Char.isDigit text later stops
  by_cases fraction : ∃ next rest, text.dropWhile Char.isDigit = '.' :: next :: rest ∧
      next.isDigit = true
  · obtain ⟨next, rest, point, digit⟩ := fraction
    have pointBoth : (text ++ later).dropWhile Char.isDigit = '.' :: next :: (rest ++ later) := by
      rw [behind, point]
      rfl
    rw [numberLength_of_point point digit, numberLength_of_point pointBoth digit, whole,
      takeWhile_before stops]
  · have alone : ∀ next rest, text.dropWhile Char.isDigit = '.' :: next :: rest →
        next.isDigit = false := by
      intro next rest point
      by_contra digit
      exact fraction ⟨next, rest, point, by simpa using digit⟩
    have aloneBoth : ∀ next rest, (text ++ later).dropWhile Char.isDigit = '.' :: next :: rest →
        next.isDigit = false := by
      intro next rest point
      rw [behind] at point
      -- The point stands at the end of the text, or before it, or behind it.
      rcases left : text.dropWhile Char.isDigit with _ | ⟨c, _ | ⟨other, others⟩⟩
      · rw [left] at point
        exact (ends left).2 next rest point
      · rw [left] at point
        cases point
        exact stops next rfl
      · rw [left] at point
        cases point
        exact alone next others left
    rw [numberLength_of_whole alone, numberLength_of_whole aloneBoth, whole]

/-- What the scan of a token that paths are made of, or of blank space, looks at. -/
inductive ScansInPath (first : Char) (rest : List Char) : TokenKind → Nat → Prop where
  /-- One character alone tells the kind. -/
  | mark {kind : TokenKind} (always : ∀ text, scanTag first text = .token kind 0) :
      ScansInPath first rest kind 0
  /-- A digit, also behind a minus, begins a number. -/
  | number (begins : first.isDigit = true ∨ first = '-' ∧ rest.head?.any Char.isDigit = true) :
      ScansInPath first rest .number (numberLength rest)
  /-- Blank space goes as far as it can. -/
  | space (begins : isTagSpace first = true) :
      ScansInPath first rest .whitespace (rest.takeWhile isTagSpace).length
  /-- A word goes as far as it can. -/
  | word (begins : isWordStart first = true) :
      ScansInPath first rest .identifier (rest.takeWhile isWordPart).length

/-- The tokens that paths are made of, and blank space, are scanned in one of these ways. -/
theorem scansInPath_of_scanTag {first : Char} {rest : List Char} {kind : TokenKind} {more : Nat}
    (scan : scanTag first rest = .token kind more)
    (inPath : kind.inPath = true ∨ kind = .whitespace) : ScansInPath first rest kind more := by
  cases scansTag_of_scanTag scan with
  | dot | openBracket | closeBracket => exact .mark fun _ => rfl
  | number begins => exact .number begins
  | space blank => exact .space blank
  | word begins => exact .word begins
  | _ => exact absurd inPath (by decide)

/-- No number is longer than the text. -/
theorem numberLength_le (text : List Char) : numberLength text ≤ text.length := by
  have whole := (List.takeWhile_prefix (p := Char.isDigit) (l := text)).length_le
  unfold numberLength
  simp only
  split
  · rename_i next rest behind
    have size := congrArg List.length behind
    have fraction := (List.takeWhile_prefix (p := Char.isDigit) (l := rest)).length_le
    rw [List.length_drop, List.length_cons, List.length_cons] at size
    split <;> omega
  · exact whole

/-- In a tag blank space is taken as far as it goes. -/
theorem scanTag_space {first : Char} {rest : List Char} (space : isTagSpace first = true) :
    scanTag first rest = .token .whitespace (rest.takeWhile isTagSpace).length := by
  simp only [isTagSpace, Bool.or_eq_true, decide_eq_true_eq] at space
  rcases space with ((rfl | rfl) | rfl) | rfl <;> simp [scanTag, isTagSpace]

/-- A token that paths are made of, or blank space, is scanned before the end of a tag as it is
before any text that does not go on with it. -/
theorem scanTag_before {first : Char} {rest later : List Char} {kind : TokenKind} {more : Nat}
    (scan : scanTag first (rest ++ ['}']) = .token kind more)
    (inPath : kind.inPath = true ∨ kind = .whitespace) (word : Stops isWordPart later)
    (space : Stops isTagSpace later)
    (ends : kind = .number → more = rest.length → EndsNumber later) :
    more ≤ rest.length ∧ scanTag first (rest ++ later) = .token kind more := by
  have digits : Stops Char.isDigit later := by
    intro c next
    by_contra digit
    have part := isWordPart_of_isDigit (by simpa using digit)
    rw [word c next] at part
    cases part
  cases scansInPath_of_scanTag scan inPath with
  | mark always => exact ⟨Nat.zero_le _, always _⟩
  | number begins =>
    have endsBrace : EndsNumber ['}'] := ⟨.cons (by decide), by simp⟩
    have length := numberLength_before endsBrace.1 fun _ : rest.dropWhile Char.isDigit = [] =>
      endsBrace
    have same : numberLength (rest ++ later) = numberLength rest := by
      refine numberLength_before digits fun nothing => ends rfl ?_
      have whole := List.takeWhile_append_dropWhile (p := Char.isDigit) (l := rest)
      rw [nothing, List.append_nil] at whole
      rw [length, numberLength_of_whole (by simp [nothing]), whole]
    rw [length]
    refine ⟨numberLength_le rest, ?_⟩
    rcases begins with digit | ⟨rfl, digit⟩
    · rw [scanTag_digit digit, same]
    · cases rest with
      | nil => simp at digit
      | cons next others =>
        rw [List.cons_append] at same ⊢
        rw [scanTag_minus (by simpa using digit), same]
  | space begins =>
    rw [takeWhile_before (.cons (by decide))]
    rw [scanTag_space begins, takeWhile_before space]
    exact ⟨(List.takeWhile_prefix _).length_le, rfl⟩
  | word begins =>
    rw [takeWhile_before (.cons (by decide))]
    rw [scanTag_word begins, takeWhile_before word]
    exact ⟨(List.takeWhile_prefix _).length_le, rfl⟩

/-- The tokens of a text in a tag are the one that is scanned first, unless it is blank, and those
behind it. -/
theorem Token.meaningful_of_scan {opening : Span} {start more : Nat} {first : Char}
    {rest : List Char} {kind : TokenKind} (scan : scanTag first rest = .token kind more) :
    (Token.meaningful (.tag opening) start (first :: rest)).items =
      [(⟨kind, first :: rest.take more, start⟩ : Token)].filter (·.kind ≠ .whitespace) ++
        (Token.meaningful ((TokenMode.tag opening).after ⟨kind, first :: rest.take more, start⟩
          (rest.drop more)) (start + Text.byteSize (first :: rest.take more))
          (rest.drop more)).items := by
  have scan : (TokenMode.tag opening).scan first rest = .token kind more := scan
  unfold Token.meaningful
  rw [Token.stream, scan]
  simp only [Stream.withoutBlanks, Stream.cons, List.filter_cons, List.filter_nil, Token.stop]
  split <;> rfl

/-- The end of a tag is its last token. -/
theorem Token.meaningful_tagEnd (opening : Span) (start : Nat) :
    (Token.meaningful (.tag opening) start ['}']).items = [⟨.tagEnd, ['}'], start⟩] := by
  have cut : Token.meaningful (.tag opening) start (['}'] ++ []) = _ :=
    @Cuts.tagEnd start [] opening
  rw [List.append_nil] at cut
  rw [cut]
  simp [Stream.prepend, Token.meaningful, Token.stream, Stream.withoutBlanks]

section Cutting

variable {opening other : Span} {later : List Char} {bytes start : Nat} {tokens : List Token}

/-- The token that is scanned first is of a kind that paths are made of, or it is blank, if all
tokens up to the end of the tag are of such kinds. -/
theorem TokenKind.inPath_of_first {first : Char} {rest text : List Char} {kind : TokenKind}
    {behind : List Token}
    (items : [(⟨kind, text, start⟩ : Token)].filter (·.kind ≠ .whitespace) ++ behind =
      tokens ++ [⟨.tagEnd, ['}'], start + Text.byteSize (first :: rest)⟩])
    (inPath : ∀ token ∈ tokens, token.kind.inPath = true) :
    kind.inPath = true ∨ kind = .whitespace := by
  by_cases blank : kind = .whitespace
  · exact .inr blank
  · have solid : [(⟨kind, text, start⟩ : Token)].filter (·.kind ≠ .whitespace) =
        [⟨kind, text, start⟩] := by simp [blank]
    rw [solid] at items
    cases tokens with
    | nil =>
      have place := congrArg Token.start (List.cons.inj items).1
      have positive := first.utf8Size_pos
      simp only [Text.byteSize_cons] at place
      omega
    | cons token more =>
      have same : (⟨kind, text, start⟩ : Token) = token := (List.cons.inj items).1
      have first := inPath token List.mem_cons_self
      rw [← same] at first
      exact .inl first

/-- Of a text that is cut into tokens of paths before the end of a tag the first token, or the blank
space in front, is cut off in the same way wherever the text stands in a tag and before any text
that does not go on with the last of the tokens. -/
theorem Cuts.move_first (word : Stops isWordPart later) (space : Stops isTagSpace later)
    {first : Char} {rest : List Char}
    (items : (Token.meaningful (.tag opening) start (first :: rest ++ ['}'])).items =
        tokens ++ [⟨.tagEnd, ['}'], start + Text.byteSize (first :: rest)⟩])
    (inPath : ∀ token ∈ tokens, token.kind.inPath = true)
    (ends : ∀ token ∈ tokens.getLast?, token.kind = .number → EndsNumber later) :
    ∃ front back head tail, rest = front ++ back ∧ tokens = head ++ tail ∧
      (Token.meaningful (.tag opening) (start + Text.byteSize (first :: front))
        (back ++ ['}'])).items =
          tail ++ [⟨.tagEnd, ['}'], start + Text.byteSize (first :: rest)⟩] ∧
      Cuts (.tag other) (start + bytes) (first :: front) (head.map (Token.move bytes)) (.tag other)
        (back ++ later) := by
  cases scan : scanTag first (rest ++ ['}']) with
  | fault fault more =>
    have scanned : (TokenMode.tag opening).scan first (rest ++ ['}']) = .fault fault more := scan
    rw [List.cons_append, Token.meaningful, Token.stream, scanned] at items
    simp [Stream.withoutBlanks] at items
  | token kind more =>
    rw [List.cons_append, Token.meaningful_of_scan scan] at items
    have kinds := TokenKind.inPath_of_first items inPath
    have stays (mode : Span) (token : Token) (isFirst : token.kind = kind) (text : List Char) :
        (TokenMode.tag mode).after token text = .tag mode := by
      have goesOn : ¬ (kind = .tagEnd ∨ kind = .selfClose) := by
        rintro (rfl | rfl) <;> rcases kinds with kinds | kinds <;> cases kinds
      rw [TokenMode.after, isFirst, if_neg goesOn]
    rw [stays _ _ rfl] at items
    have whole : kind = .number → more = rest.length → EndsNumber later := by
      rintro rfl rfl
      rw [List.drop_left, Token.meaningful_tagEnd] at items
      obtain ⟨rfl, -⟩ := List.append_inj' items rfl
      exact ends _ rfl rfl
    obtain ⟨within, moved⟩ := scanTag_before scan kinds word space whole
    rw [List.take_append_of_le_length within, List.drop_append_of_le_length within] at items
    have scanned : (TokenMode.tag other).scan first (rest.take more ++ (rest.drop more ++ later)) =
        .token kind (rest.take more).length := by
      rw [← List.append_assoc, List.take_append_drop, List.length_take_of_le within]
      exact moved
    have cut := @Cuts.scanned (.tag other) (start + bytes) _ kind first _ scanned
    rw [stays other _ rfl] at cut
    have parts := (List.take_append_drop more rest).symm
    rcases kinds with solid | rfl
    · have differ : kind ≠ .whitespace := by
        rintro rfl
        cases solid
      simp only [List.filter_cons, List.filter_nil, differ, ne_eq, not_false_eq_true, decide_true,
        ↓reduceIte, List.singleton_append] at items cut
      cases tokens with
      | nil =>
        obtain ⟨rfl, -⟩ := Token.mk.inj (List.cons.inj items).1
        cases solid
      | cons token tail =>
        obtain ⟨rfl, behind⟩ := List.cons.inj items
        exact ⟨_, _, [_], tail, parts, rfl, behind, cut⟩
    · exact ⟨_, _, [], tokens, parts, rfl, items, cut⟩

end Cutting

/-- A text that is cut into tokens of paths before the end of a tag is cut into these tokens, as
they are moved with it, wherever it stands in a tag and before any text that does not go on with the
last of them. -/
theorem Cuts.move {opening other : Span} {later : List Char} {bytes : Nat}
    (word : Stops isWordPart later) (space : Stops isTagSpace later) {start : Nat}
    {text : List Char} {tokens : List Token}
    (items : (Token.meaningful (.tag opening) start (text ++ ['}'])).items =
        tokens ++ [⟨.tagEnd, ['}'], start + Text.byteSize text⟩])
    (inPath : ∀ token ∈ tokens, token.kind.inPath = true)
    (ends : ∀ token ∈ tokens.getLast?, token.kind = .number → EndsNumber later) :
    Cuts (.tag other) (start + bytes) text (tokens.map (Token.move bytes)) (.tag other) later := by
  induction length : text.length using Nat.strongRecOn generalizing start text tokens with
  | ind n induction =>
  cases text with
  | nil =>
    rw [List.nil_append, Token.meaningful_tagEnd] at items
    have lengths := congrArg List.length items
    have none : tokens = [] := by simpa using lengths
    subst none
    exact Cuts.nil
  | cons first rest =>
    obtain ⟨front, back, head, tail, rfl, rfl, behind, cut⟩ :=
      @Cuts.move_first opening other later bytes start _ word space first rest items inPath ends
    have text : start + Text.byteSize (first :: (front ++ back)) =
        start + Text.byteSize (first :: front) + Text.byteSize back := by
      rw [← List.cons_append, Text.byteSize_append, Nat.add_assoc]
    rw [text] at behind
    have shorter : back.length < n := by
      simp only [List.length_cons, List.length_append] at length
      omega
    have endsTail : ∀ token ∈ tail.getLast?, token.kind = .number → EndsNumber later := by
      intro token last
      refine ends token ?_
      rw [List.getLast?_append, Option.mem_def.mp last]
      rfl
    have rest := induction back.length shorter behind
      (fun token mem => inPath token (List.mem_append_right _ mem)) endsTail rfl
    have place : start + bytes + Text.byteSize (first :: front) =
        start + Text.byteSize (first :: front) + bytes := by omega
    rw [List.map_append]
    exact cut.append (place ▸ rest)

/-! ## Spelled paths -/

/-- The tokens of a text inside of a tag, with the end of the tag. -/
def Token.insideTag (text : List Char) : List Token :=
  (Token.meaningful (.tag default) 0 (text ++ ['}'])).items

/-- The path that a text spells as a whole. -/
def Path.ofText? (text : List Char) : Option Path :=
  match Path.read ⟨text, none⟩ (Token.insideTag text) with
  | .ok (path, left) =>
    if left = [⟨.tagEnd, ['}'], Text.byteSize text⟩] ∧ path.span = ⟨0, Text.byteSize text⟩ then
      some path
    else none
  | .error _ => none

/-- The kind of the last token of a text inside of a tag. -/
def TokenKind.lastInTag? (text : List Char) : Option TokenKind :=
  (Token.insideTag text).dropLast.getLast?.map Token.kind

/-- A text spells a path with these tokens. -/
structure Path.Spells (text : List Char) (path : Path) (first : Token) (more : List Token) :
    Prop where
  /-- These are the tokens of the text. -/
  tokens : Token.insideTag text = first :: more ++ [⟨.tagEnd, ['}'], Text.byteSize text⟩]
  /-- No path begins with a number. -/
  begins : first.kind ≠ .number
  /-- The path spans the text. -/
  span : path.span = ⟨0, Text.byteSize text⟩
  /-- The tokens are of kinds that paths are made of. -/
  inPath : ∀ token ∈ first :: more, token.kind.inPath = true
  /-- The reader takes the tokens for the path, wherever they stand. -/
  read : ∀ (bytes : Nat) (input : Input) (around : List Path) (later : List Token),
    (∀ token ∈ later.head?, token.kind ≠ .identifier) →
      Path.readStart input around ((first :: more).map (Token.move bytes) ++ later) =
        Path.readKeys input around (path.move bytes) later

/-- A path that is read does not begin with a number. -/
theorem Path.kind_ne_number_of_readStart {input : Input} {outer : List Path} {token : Token}
    {tokens rest : List Token} {path : Path}
    (read : Path.readStart input outer (token :: tokens) = .ok (path, rest)) :
    token.kind ≠ .number := by
  intro number
  rw [Path.readStart.eq_def] at read
  simp [number] at read

/-- A text that spells a path has tokens that the reader takes for the path. -/
theorem Path.spells_of_ofText? {text : List Char} {path : Path}
    (spelled : Path.ofText? text = some path) : ∃ first more, Path.Spells text path first more := by
  unfold ofText? at spelled
  split at spelled
  · rename_i found left read
    split at spelled
    · rename_i whole
      obtain ⟨rfl, span⟩ := whole
      cases spelled
      obtain ⟨first, more, replays⟩ := Path.replays_readStart read
      have tokens := replays.split
      rw [Path.read, tokens] at read
      exact ⟨first, more, tokens, kind_ne_number_of_readStart read, span, replays.inPath,
        fun bytes input around => replays.read bytes input around⟩
    · cases spelled
  · cases spelled

/-- The tokens of a spelled path are cut off wherever the text stands in a tag, before any text that
does not go on with the last of them. -/
theorem Path.Spells.cuts {text later : List Char} {path : Path} {first : Token} {more : List Token}
    (spells : Path.Spells text path first more) (opening : Span) (bytes : Nat)
    (word : Stops isWordPart later) (space : Stops isTagSpace later)
    (ends : TokenKind.lastInTag? text = some .number → EndsNumber later) :
    Cuts (.tag opening) bytes text ((first :: more).map (Token.move bytes)) (.tag opening)
      later := by
  have items := spells.tokens
  rw [Token.insideTag, ← Nat.zero_add (Text.byteSize text)] at items
  have cut := @Cuts.move default opening later bytes word space 0 text _ items spells.inPath
  rw [Nat.zero_add] at cut
  refine cut fun token last number => ends ?_
  rw [TokenKind.lastInTag?, spells.tokens, List.dropLast_concat, Option.mem_def.mp last,
    Option.map_some, number]

/-- A text that is cut into tokens has these tokens inside of a tag. -/
theorem Token.insideTag_of_cuts {text : List Char} {tokens : List Token}
    (cut : Cuts (.tag default) 0 text tokens (.tag default) ['}']) :
    Token.insideTag text = tokens ++ [⟨.tagEnd, ['}'], Text.byteSize text⟩] := by
  rw [Token.insideTag, cut, Stream.prepend, Token.meaningful_tagEnd, Nat.zero_add]

/-- A text spells a path if the reader takes the tokens of the text for the path. -/
theorem Path.ofText?_of_cuts {text : List Char} {tokens : List Token} {path : Path}
    (cut : Cuts (.tag default) 0 text tokens (.tag default) ['}'])
    (span : path.span = ⟨0, Text.byteSize text⟩)
    (read : ∀ input rest, (∀ token ∈ rest.head?, token.kind ≠ .identifier) →
      Path.readStart input [] (tokens ++ rest) = Path.readKeys input [] path rest) :
    Path.ofText? text = some path := by
  have detached : Detached (Text.byteSize text) [⟨.tagEnd, ['}'], Text.byteSize text⟩] := by
    simp [Detached]
  have stop : path.span.stop = Text.byteSize text := by rw [span]
  have taken : Path.read ⟨text, none⟩ (Token.insideTag text) =
      .ok (path, [⟨.tagEnd, ['}'], Text.byteSize text⟩]) := by
    rw [Token.insideTag_of_cuts cut, Path.read, read _ _ (by simp),
      Path.readKeys_detached (stop ▸ detached)]
  rw [ofText?, taken]
  exact if_pos ⟨rfl, span⟩

/-- A word spells a path, and it ends with a word. -/
theorem Path.ofText?_word {name : String} (word : isWord name = true) :
    Path.ofText? name.toList = some ⟨.relative, [.name name], ⟨0, Text.byteSize name.toList⟩⟩ ∧
      TokenKind.lastInTag? name.toList = some .identifier := by
  have cut : Cuts (.tag default) 0 name.toList [⟨.identifier, name.toList, 0⟩] (.tag default)
      ['}'] := Cuts.name word (.cons (by decide))
  refine ⟨Path.ofText?_of_cuts cut rfl fun input rest _ => ?_, ?_⟩
  · rw [List.singleton_append, Path.readStart_word, String.ofList_toList, Nat.zero_add]
  · rw [TokenKind.lastInTag?, Token.insideTag_of_cuts cut, List.dropLast_concat]
    rfl

/-- A spelled path goes on with a text if the reader takes the tokens of the text for what goes on
with the path. -/
theorem Path.ofText?_append {text more : List Char} {path longer : Path}
    (spelled : Path.ofText? text = some path)
    (ends : TokenKind.lastInTag? text = some .number → EndsNumber (more ++ ['}']))
    (word : Stops isWordPart (more ++ ['}'])) (space : Stops isTagSpace (more ++ ['}']))
    {tokens : List Token}
    (cut : Cuts (.tag default) (Text.byteSize text) more tokens (.tag default) ['}'])
    (begins : ∀ token ∈ tokens.head?, token.kind ≠ .identifier)
    (span : longer.span = ⟨0, Text.byteSize (text ++ more)⟩)
    (read : ∀ input rest, Path.readKeys input [] path (tokens ++ rest) =
      Path.readKeys input [] longer rest) :
    Path.ofText? (text ++ more) = some longer := by
  obtain ⟨first, others, spells⟩ := Path.spells_of_ofText? spelled
  have front := spells.cuts default 0 word space ends
  have whole := front.append (by rwa [Nat.zero_add])
  refine Path.ofText?_of_cuts whole span fun input rest noWord => ?_
  rw [List.append_assoc, spells.read, Path.move_zero, read]
  intro token mem
  rw [List.head?_append, Option.mem_def, Option.or_eq_some_iff] at mem
  rcases mem with mem | ⟨-, mem⟩
  · exact begins token mem
  · exact noWord token mem

/-- A spelled path goes on with the text of keys. -/
theorem Path.ofText?_keys {text more : List Char} {path : Path} {keys placed : List Key}
    {tokens : List Token} (spelled : Path.ofText? text = some path)
    (ends : TokenKind.lastInTag? text = some .number → EndsNumber (more ++ ['}']))
    (word : Stops isWordPart (more ++ ['}'])) (space : Stops isTagSpace (more ++ ['}']))
    (found : KeyTokens default (Text.byteSize text) more keys ['}'] tokens placed) :
    Path.ofText? (text ++ more) =
      some ⟨path.anchor, path.keys ++ placed, ⟨0, Text.byteSize (text ++ more)⟩⟩ := by
  obtain ⟨first, others, spells⟩ := Path.spells_of_ofText? spelled
  refine Path.ofText?_append spelled ends word space found.whole.cuts found.begins rfl ?_
  intro input rest
  have stop : path.span.stop = Text.byteSize text := by rw [spells.span]
  have start : path.span.start = 0 := by rw [spells.span]
  rw [found.read input [] path rest stop (start ▸ Nat.zero_le _), start, Text.byteSize_append]

/-- A spelled path goes on with another one in brackets. -/
theorem Path.ofText?_path {text inner : List Char} {path key : Path}
    (spelled : Path.ofText? text = some path) (isKey : Path.ofText? inner = some key)
    (ends : TokenKind.lastInTag? text ≠ some .number) :
    Path.ofText? (text ++ '[' :: (inner ++ [']'])) =
      some ⟨path.anchor, path.keys ++ [.path (key.move (Text.byteSize text + 1))],
        ⟨0, Text.byteSize (text ++ '[' :: (inner ++ [']']))⟩⟩ := by
  obtain ⟨first, others, spells⟩ := Path.spells_of_ofText? spelled
  obtain ⟨begin, more, inside⟩ := Path.spells_of_ofText? isKey
  have within : Cuts (.tag default) (Text.byteSize text + 1) inner
      ((begin :: more).map (Token.move (Text.byteSize text + 1))) (.tag default)
      ([']'] ++ ['}']) :=
    inside.cuts default _ (.cons (by decide)) (.cons (by decide))
      fun _ => ⟨.cons (by decide), by simp⟩
  have brackets := (@CutsWhole.openBracket default (Text.byteSize text) _).cuts.append
    (within.append CutsWhole.closeBracket.cuts)
  have size : Text.byteSize (text ++ '[' :: (inner ++ [']'])) =
      Text.byteSize text + 1 + Text.byteSize inner + 1 := by
    rw [Text.byteSize_append, Text.byteSize_cons, Text.byteSize_append, ← Nat.add_assoc,
      ← Nat.add_assoc]
    rfl
  refine Path.ofText?_append spelled (fun number => absurd number ends) (.cons (by decide))
    (.cons (by decide)) brackets (by simp) rfl fun input rest => ?_
  have bracket : (⟨.openBracket, ['['], Text.byteSize text⟩ : Token).kind = .openBracket := rfl
  have close : (⟨.closeBracket, [']'], Text.byteSize text + 1 + Text.byteSize inner⟩ : Token).kind =
      .closeBracket := rfl
  have start : path.span.start = 0 := by rw [spells.span]
  have stop : path.span.stop = Text.byteSize text := by rw [spells.span]
  have moved : (begin.move (Text.byteSize text + 1)).kind ≠ .number := inside.begins
  have grown : path.extend (.path (key.move (Text.byteSize text + 1)))
      ⟨Text.byteSize text + 1 + Text.byteSize inner,
        Text.byteSize text + 1 + Text.byteSize inner + 1⟩ =
      ⟨path.anchor, path.keys ++ [.path (key.move (Text.byteSize text + 1))],
        ⟨0, Text.byteSize (text ++ '[' :: (inner ++ [']']))⟩⟩ := by
    rw [Path.extend_eq _ (by omega) (by omega), start, size]
  have taken := inside.read (Text.byteSize text + 1) input [path]
    (⟨.closeBracket, [']'], Text.byteSize text + 1 + Text.byteSize inner⟩ :: rest) (by simp)
  rw [List.map_cons, List.cons_append] at taken
  simp only [List.map_cons, List.cons_append, List.append_assoc, List.nil_append]
  rw [Path.readKeys_of_open bracket stop.symm moved, taken, Path.readKeys_of_close close, ← grown]
  rfl

/-! ## References to spelled paths -/

/-- A source whose tokens are read as one part compiles to this part alone. -/
theorem Template.compile_of_part {whitespace : Whitespace} {source : String} {first : Token}
    {tokens : List Token} {part : Part}
    (cut : Cuts .text 0 source.toList (first :: tokens) .text [])
    (read : Segment.read ⟨source.toList, none⟩ (Token.stringBody source.toList) whitespace first
      tokens = .ok (.part part, [])) :
    Template.compile whitespace source = .ok ⟨source, Body.push [] part, [], none⟩ := by
  have ended : Token.meaningful .text (0 + Text.byteSize source.toList) [] = ⟨[], none⟩ := by
    simp [Token.meaningful, Token.stream, TokenMode.failureAtEnd, Stream.withoutBlanks]
  rw [Cuts, ended, List.append_nil] at cut
  have items : (Token.stream .text 0 source.toList).withoutBlanks = ⟨first :: tokens, none⟩ := by
    simpa [Stream.prepend, Token.meaningful] using cut
  rw [compile, Body.ofText, items]
  simp only [Segment.stream_cons read]
  rw [Segment.stream]
  rfl

/-- The source of a reference without filters to a spelled path compiles to it, if a reference begins
there. Its places are one byte further on. -/
theorem Template.compile_of_ofText? (whitespace : Whitespace) {text : List Char} {path : Path}
    (spelled : Path.ofText? text = some path)
    (opens : Opening.ofText (text ++ ['}']) = .token .openReference 0) :
    Template.compile whitespace (String.ofList ('{' :: (text ++ ['}']))) =
      .ok ⟨String.ofList ('{' :: (text ++ ['}'])),
        [.reference (path.move 1) [] ⟨0, Text.byteSize text + 2⟩], [], none⟩ := by
  obtain ⟨first, more, spells⟩ := Path.spells_of_ofText? spelled
  obtain ⟨opening, brace⟩ := @Cuts.brace 0 _ opens
  have inside : Cuts (.tag opening) 1 text ((first :: more).map (Token.move 1)) (.tag opening)
      ['}'] :=
    spells.cuts opening 1 (.cons (by decide)) (.cons (by decide))
      fun _ => ⟨.cons (by decide), by simp⟩
  have place : 0 + Text.byteSize ('{' :: text) = 1 + Text.byteSize text := by
    rw [Text.byteSize_cons, Nat.zero_add]
    rfl
  have cut := (brace.append inside).append (@Cuts.tagEnd _ [] opening)
  have ended (input : Input) : Path.read input ((first :: more).map (Token.move 1) ++
        [⟨.tagEnd, ['}'], 1 + Text.byteSize text⟩]) =
      .ok (path.move 1, [⟨.tagEnd, ['}'], 1 + Text.byteSize text⟩]) := by
    rw [Path.read, spells.read 1 input [] _ (by simp), Path.readKeys_detached (by simp [Detached])]
  have taken (input : Input) : Segment.read input (Token.stringBody input.source) whitespace
      ⟨.openReference, ['{'], 0⟩ ((first :: more).map (Token.move 1) ++
        [⟨.tagEnd, ['}'], 1 + Text.byteSize text⟩]) =
      .ok (.part (.reference (path.move 1) [] ⟨0, 1 + Text.byteSize text + 1⟩), []) := by
    simp only [Segment.read, Segment.readReference, ended, Identifier.readFilters, Input.take, bind,
      Except.bind]
    rfl
  rw [List.singleton_append, place] at cut
  have size : Text.byteSize text + 2 = 1 + Text.byteSize text + 1 := by omega
  rw [size]
  exact Template.compile_of_part (by rw [String.toList_ofList]; exact cut) (taken _)

end Dust
