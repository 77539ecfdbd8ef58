import Dust.Proofs.Syntax.PathReading

/-!
# Segments of written text

A text that is written piece by piece is read as the segments of its pieces, as far as its tokens
are. What a segment does to a template that is being put together does not depend on the segments
around it, so that the parts of a body are added one after the other.
-/

namespace Dust

/-! ## Tags -/

/-- A text that a tag can begin with after its opening. -/
structure Begins (kind : TokenKind) (text : List Char) : Prop where
  /-- The tag can go on with the text. -/
  tag : beginsTag text = true
  /-- The name of a partial has quotes. -/
  quoted : kind = .openPartial → text.head? = some '"'

/-- A tag that can begin with a text can do so whatever follows. -/
theorem Begins.append {kind : TokenKind} {text : List Char} (begins : Begins kind text)
    (more : List Char) : Begins kind (text ++ more) := by
  cases text with
  | nil => cases begins.tag
  | cons first rest => exact ⟨begins.tag, begins.quoted⟩

/-- A tag can begin with a word. -/
theorem Begins.word {kind : TokenKind} {name : String} (word : isWord name = true)
    (other : kind ≠ .openPartial) : Begins kind name.toList := by
  obtain ⟨first, rest, letters, begins, _⟩ := isWord_eq_cons word
  refine ⟨?_, fun same => absurd same other⟩
  rw [letters, beginsTag, begins]
  rfl

/-- A tag is cut into its opening, the tokens of its inside and its end. -/
theorem Cuts.enclosed {start : Nat} {sigil : Char} {kind ending : TokenKind}
    {text close later : List Char} (named : TokenKind.ofSigil? sigil = some kind)
    (begins : Begins kind text)
    (closes : ∀ opening place,
      Cuts (.tag opening) place close [⟨ending, close, place⟩] .text later) :
    ∃ opening, ∀ tokens,
      Cuts (.tag opening) (start + Text.byteSize ['{', sigil]) text tokens (.tag opening)
          (close ++ later) →
        ∃ stop, Cuts .text start ('{' :: sigil :: (text ++ close))
          (⟨kind, ['{', sigil], start⟩ :: (tokens ++ [⟨ending, close, stop⟩])) .text later := by
  have reaches := (begins.append close).append later
  obtain ⟨opening, first⟩ := @Cuts.sigil start _ sigil kind named reaches.tag reaches.quoted
  refine ⟨opening, fun tokens inside => ?_⟩
  have cut := first.append (inside.append (closes opening _))
  exact ⟨_, cut⟩

/-- Nothing raw stands where a tag begins. -/
theorem rawLength_enclosed {sigil : Char} {kind : TokenKind} {text close later : List Char}
    (named : TokenKind.ofSigil? sigil = some kind) (begins : Begins kind text) :
    rawLength ('{' :: sigil :: (text ++ close) ++ later) = 0 := by
  rw [List.cons_append, List.cons_append]
  apply rawLength_of_opens
  rw [Opening.ofText_sigil named ((begins.append close).append later).tag]
  simp

/-- A token of the kind that is expected is taken. -/
theorem Input.take_of_kind {input : Input} {kind : TokenKind} {token : Token}
    {rest : List Token} (same : token.kind = kind) :
    input.take kind (token :: rest) = .ok (token, rest) :=
  if_pos same

/-! ## Filters -/

/-- The name that the token of a name spells. -/
theorem Token.unplaced_identifier (name : Identifier) (start : Nat) :
    (Token.identifier ⟨.identifier, name.name.toList, start⟩).unplaced = name.unplaced := by
  rw [Token.identifier, Token.string, String.ofList_toList, Identifier.unplaced,
    Identifier.unplaced]

/-- Tokens that go on with the end of a tag, if they go on. -/
def EndsTag (tokens : List Token) : Prop :=
  ∀ token ∈ tokens.head?, token.kind = .tagEnd ∨ token.kind = .selfClose

/-- The text of a chain of filters is cut into tokens that the reader takes for it. -/
structure FilterTokens (opening : Span) (start : Nat) (filters : List Identifier)
    (later : List Char) (tokens : List Token) (placed : List Identifier) : Prop where
  /-- The tokens of the text. -/
  cuts : Cuts (.tag opening) start (Identifier.writtenFilters filters) tokens (.tag opening) later
  /-- They begin with a pipe. -/
  begins : ∀ token ∈ tokens.head?, token.kind = .pipe
  /-- What is read are the filters. -/
  same : placed.map Identifier.unplaced = filters.map Identifier.unplaced
  /-- The reader takes the tokens. -/
  read : ∀ (input : Input) (rest : List Token), EndsTag rest →
    Identifier.readFilters input (tokens ++ rest) = .ok (placed, rest)

/-- No word goes on with the text of a chain of filters. -/
theorem stops_writtenFilters (filters : List Identifier) :
    Stops isWordPart (Identifier.writtenFilters filters) := by
  intro c next
  cases filters with
  | nil => cases next
  | cons filter rest =>
    cases next
    decide

/-- The characters of a path with filters behind it can stand in a reference. -/
theorem isReferencePart_of_filtered {path : Path} {filters : List Identifier}
    (writable : path.isWritable = true) (words : filters.all (isWord ·.name) = true) :
    ∀ c ∈ path.written ++ Identifier.writtenFilters filters, isReferencePart c = true := by
  intro c mem
  rcases List.mem_append.mp mem with mem | mem
  · exact Path.isReferencePart_of_written path writable c mem
  · obtain ⟨filter, isFilter, mem⟩ := List.mem_flatMap.mp mem
    rcases List.mem_cons.mp mem with rfl | mem
    · decide
    · exact isReferencePart_of_isWord (List.all_eq_true.mp words filter isFilter) c mem

/-- A brace before a path with filters behind it opens a reference. -/
theorem Opening.ofText_filtered {path : Path} {filters : List Identifier} {later : List Char}
    (writable : path.isWritable = true) (words : filters.all (isWord ·.name) = true) :
    Opening.ofText (path.written ++ Identifier.writtenFilters filters ++ ['}'] ++ later) =
      .token .openReference 0 := by
  obtain ⟨first, rest, written, begins⟩ := Path.written_eq_cons writable
  have closes := @closesReference_append _ later (isReferencePart_of_filtered writable words)
  rw [written, List.cons_append, List.cons_append] at closes
  rw [List.append_assoc, written, List.cons_append, List.cons_append]
  exact Opening.ofText_reference begins closes

/-- A chain of filters is read where a word cannot go on. -/
theorem Identifier.tokens_of_filters {opening : Span} {start : Nat} {filters : List Identifier}
    {later : List Char} (words : filters.all (isWord ·.name) = true)
    (stops : Stops isWordPart later) :
    ∃ tokens placed, FilterTokens opening start filters later tokens placed := by
  induction filters generalizing start with
  | nil =>
    refine ⟨[], [], Cuts.nil, by simp, rfl, ?_⟩
    intro input rest ends
    rw [List.nil_append, Identifier.readFilters.eq_def]
    cases rest with
    | nil => rfl
    | cons first more =>
      have other : first.kind ≠ .pipe := by
        rcases ends first rfl with kind | kind <;> simp [kind]
      exact if_neg other
  | cons filter filters induction =>
    rw [List.all_cons, Bool.and_eq_true] at words
    obtain ⟨tokens, placed, behind⟩ :=
      @induction (start + 1 + Text.byteSize filter.name.toList) words.2
    have pipe := (stops_writtenFilters filters).append stops
    refine ⟨⟨.pipe, ['|'], start⟩ :: ⟨.identifier, filter.name.toList, start + 1⟩ :: tokens,
      Token.identifier ⟨.identifier, filter.name.toList, start + 1⟩ :: placed, ?_, by simp, ?_, ?_⟩
    · have name : Cuts (.tag opening) (start + 1) filter.name.toList
          [⟨.identifier, filter.name.toList, start + 1⟩] (.tag opening)
          (Identifier.writtenFilters filters ++ later) := Cuts.name words.1 pipe
      have mark : Cuts (.tag opening) start ['|'] [⟨.pipe, ['|'], start⟩] (.tag opening)
          (filter.name.toList ++ Identifier.writtenFilters filters ++ later) :=
        Cuts.mark rfl (by decide) (by decide)
      exact mark.append (name.append behind.cuts)
    · rw [List.map_cons, List.map_cons, behind.same, Token.unplaced_identifier]
    · intro input rest ends
      rw [List.cons_append, List.cons_append, Identifier.readFilters.eq_def]
      simp only [↓reduceIte, behind.read input rest ends, bind, Except.bind]

/-! ## Segments -/

/-- The segments of a text that begins at a byte of the source. -/
def Segment.ofText (readString : Token → Except Located Body) (source : List Char) (start : Nat)
    (text : List Char) : Stream Segment :=
  let tokens := Token.meaningful .text start text
  Segment.stream ⟨source, tokens.failure⟩ readString .preserve tokens.items

/-- A text before another one is read as these segments. -/
def Yields (readString : Token → Except Located Body) (source : List Char) (start : Nat)
    (text : List Char) (segments : List Segment) (later : List Char) : Prop :=
  Segment.ofText readString source start (text ++ later) =
    (Segment.ofText readString source (start + Text.byteSize text) later).prepend segments

/-- A segment that is read is the first one of the stream. -/
theorem Segment.stream_cons {input : Input} {readString : Token → Except Located Body}
    {whitespace : Whitespace} {first : Token} {tokens later : List Token} {segment : Segment}
    (found : Segment.read input readString whitespace first tokens = .ok (segment, later)) :
    Segment.stream input readString whitespace (first :: tokens) =
      (Segment.stream input readString whitespace later).cons segment := by
  rw [Segment.stream]
  split
  · rename_i failed
    rw [found] at failed
    cases failed
  · rename_i same
    rw [found] at same
    cases same
    rfl

namespace Yields

variable {readString : Token → Except Located Body} {source : List Char} {start : Nat}
  {later : List Char}

/-- A text without characters is read as no segments. -/
theorem nil : Yields readString source start [] [] later := by
  simp [Yields, Stream.prepend, Text.byteSize_nil]

/-- Texts in a row are read as their segments in a row. -/
theorem append {front back : List Char} {segments more : List Segment}
    (first : Yields readString source start front segments (back ++ later))
    (second : Yields readString source (start + Text.byteSize front) back more later) :
    Yields readString source start (front ++ back) (segments ++ more) later := by
  unfold Yields at first second ⊢
  rw [List.append_assoc, first, second, Text.byteSize_append, ← Nat.add_assoc]
  simp [Stream.prepend]

/-- A text that is cut into the tokens of a segment is read as the segment. -/
theorem single {text : List Char} {first : Token} {tokens : List Token} {segment : Segment}
    (cut : Cuts .text start text (first :: tokens) .text later)
    (read : ∀ failure rest,
      Segment.read ⟨source, failure⟩ readString .preserve first (tokens ++ rest) =
        .ok (segment, rest)) :
    Yields readString source start text [segment] later := by
  unfold Yields Segment.ofText
  rw [cut]
  exact Segment.stream_cons (read _ _)

end Yields

/-- A template with parts added one after the other. -/
def Assembly.addAll (assembly : Assembly) (parts : List Part) : Assembly :=
  parts.foldl Assembly.add assembly

/-- Segments that add parts to a template, whatever is open around them. -/
def Adds (segments : List Segment) (parts : List Part) : Prop :=
  ∀ (assembly : Assembly) (rest : List Segment),
    assembly.run (segments ++ rest) = (assembly.addAll parts).run rest

/-- A text is read as segments that add parts with the tree of a body. -/
structure BodySegments (readString : Token → Except Located Body) (source : List Char)
    (start : Nat) (text : List Char) (body : Body) (later : List Char) (segments : List Segment)
    (placed : Body) : Prop where
  /-- The segments of the text. -/
  yields : Yields readString source start text segments later
  /-- The parts have the tree of the body. -/
  same : Part.unplacedBody placed = Part.unplacedBody body
  /-- The segments add the parts. -/
  adds : Adds segments placed

/-- Places are dropped from the parts of a body one after the other. -/
theorem Part.unplacedBody_eq_map (body : List Part) :
    Part.unplacedBody body = body.map Part.unplaced := by
  induction body with
  | nil => rfl
  | cons part rest induction => rw [unplacedBody, induction, List.map_cons]

namespace BodySegments

variable {readString : Token → Except Located Body} {source : List Char} {start : Nat}
  {later : List Char}

/-- A text without characters is read as no parts. -/
theorem nil : BodySegments readString source start [] [] later [] [] :=
  ⟨Yields.nil, rfl, fun _ _ => rfl⟩

/-- Texts in a row are read as their parts in a row. -/
theorem append {front back : List Char} {body others placed more : Body}
    {segments rest : List Segment}
    (first : BodySegments readString source start front body (back ++ later) segments placed)
    (second : BodySegments readString source (start + Text.byteSize front) back others later rest
      more) :
    BodySegments readString source start (front ++ back) (body ++ others) later (segments ++ rest)
      (placed ++ more) := by
  refine ⟨first.yields.append second.yields, ?_, ?_⟩
  · have same := first.same
    have others := second.same
    rw [Part.unplacedBody_eq_map, Part.unplacedBody_eq_map] at same others ⊢
    rw [List.map_append, List.map_append, same, others]
  · intro assembly tail
    rw [List.append_assoc, first.adds, second.adds, Assembly.addAll, Assembly.addAll,
      Assembly.addAll, List.foldl_append]

/-- A segment that is a part adds it. -/
theorem part {text : List Char} {part placed : Part}
    (yields : Yields readString source start text [.part placed] later)
    (same : placed.unplaced = part.unplaced) :
    BodySegments readString source start text [part] later [.part placed] [placed] := by
  refine ⟨yields, ?_, fun _ _ => rfl⟩
  rw [Part.unplacedBody, Part.unplacedBody, Part.unplacedBody, Part.unplacedBody, same]

/-- A text that is cut into the tokens of a part is read as the part. -/
theorem ofRead {text : List Char} {part placed : Part} {first : Token} {tokens : List Token}
    (cut : Cuts .text start text (first :: tokens) .text later)
    (read : ∀ failure rest,
      Segment.read ⟨source, failure⟩ readString .preserve first (tokens ++ rest) =
        .ok (.part placed, rest))
    (same : placed.unplaced = part.unplaced) :
    ∃ segments placed,
      BodySegments readString source start text [part] later segments placed :=
  ⟨_, _, .part (Yields.single cut read) same⟩

/-- A text without braces is read as it is. -/
theorem text {content : String} (solid : content ≠ "") (free : '{' ∉ content.toList)
    (stops : rawLength later = 0) :
    BodySegments readString source start content.toList [.text content] later
      [.part (.text content)] [.text content] := by
  cases letters : content.toList with
  | nil => exact absurd (String.toList_eq_nil_iff.mp letters) solid
  | cons first rest =>
    rw [letters] at free
    refine part (Yields.single (Cuts.raw free stops) ?_) rfl
    intro failure tokens
    rw [← letters]
    simp [Segment.read, Whitespace.apply]

/-- Nothing raw stands where a comment begins. -/
theorem rawLength_comment {content : String} (free : ¬ ['!', '}'] <:+: content.toList) :
    rawLength (Part.written (.comment content) ++ later) = 0 := by
  rw [Part.written, List.cons_append, List.cons_append, List.append_assoc]
  apply rawLength_of_opens
  exact ne_of_eq_of_ne (Opening.ofText_comment free) (by simp)

/-- A comment is read as it is. -/
theorem comment {content : String} (free : ¬ ['!', '}'] <:+: content.toList) :
    BodySegments readString source start (Part.written (.comment content)) [.comment content]
      later [.part (.comment content)] [.comment content] := by
  rw [Part.written]
  refine part (Yields.single (Cuts.comment free) ?_) rfl
  intro failure tokens
  simp [Segment.read, Token.inside]

/-- The reader of references takes the tokens of a path and of filters and the end of the tag. -/
theorem readReference_of_tokens {input : Input} {opening : Span} {begin middle : Nat}
    {path placedPath : Path} {filters placedFilters : List Identifier} {between after : List Char}
    {way chain rest : List Token} {first last : Token}
    (pathTokens : PathTokens opening begin path between way placedPath)
    (filterTokens : FilterTokens opening middle filters after chain placedFilters)
    (ends : last.kind = .tagEnd) :
    Segment.readReference input first (way ++ chain ++ [last] ++ rest) =
      .ok (.part (.reference placedPath placedFilters (first.span.cover last.span)), rest) := by
  have closes : EndsTag ([last] ++ rest) := by
    intro token next
    cases next
    exact .inl ends
  have detached : Detached (begin + Text.byteSize path.written) (chain ++ ([last] ++ rest)) := by
    intro token next _
    cases chain with
    | nil =>
      cases next
      simp [ends]
    | cons pipe more =>
      have kind := filterTokens.begins token next
      simp [kind]
  have taken : input.take .tagEnd ([last] ++ rest) = .ok (last, rest) :=
    Input.take_of_kind ends
  rw [List.append_assoc, List.append_assoc]
  simp only [Segment.readReference, pathTokens.read_detached input detached,
    filterTokens.read input _ closes, taken, bind, Except.bind]

/-- Nothing raw stands where a reference begins. -/
theorem rawLength_reference {path : Path} {filters : List Identifier} {span : Span}
    (writable : Part.isWritableReference (.reference path filters span) = true) :
    rawLength (Part.written (.reference path filters span) ++ later) = 0 := by
  rw [Part.isWritableReference, Bool.and_eq_true] at writable
  rw [Part.written, List.cons_append]
  apply rawLength_of_opens
  rw [Opening.ofText_filtered writable.1 writable.2]
  simp

/-- A reference is read with its path and its filters. -/
theorem reference {path : Path} {filters : List Identifier} {span : Span}
    (writable : Part.isWritableReference (.reference path filters span) = true) :
    ∃ segments placed, BodySegments readString source start
      (Part.written (.reference path filters span)) [.reference path filters span] later segments
      placed := by
  rw [Part.isWritableReference, Bool.and_eq_true] at writable
  obtain ⟨writablePath, words⟩ := writable
  obtain ⟨opening, brace⟩ :=
    @Cuts.brace start _ (@Opening.ofText_filtered _ _ later writablePath words)
  have ends : Stops isWordPart ('}' :: later) := .cons (by decide)
  have pipe := (stops_writtenFilters filters).append ends
  obtain ⟨way, placedPath, pathTokens⟩ :=
    @Path.tokens_of_written path opening (start + 1) _ writablePath pipe
  obtain ⟨chain, placedFilters, filterTokens⟩ :=
    @Identifier.tokens_of_filters opening (start + 1 + Text.byteSize path.written) _ _ words ends
  have cut := brace.append ((pathTokens.whole.cuts.append filterTokens.cuts).append Cuts.tagEnd)
  exact ofRead cut (fun _ _ => readReference_of_tokens pathTokens filterTokens rfl)
    (by simp only [Part.unplaced, pathTokens.same, filterTokens.same])

end BodySegments

end Dust
