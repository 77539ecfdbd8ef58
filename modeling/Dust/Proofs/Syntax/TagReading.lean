import Dust.Proofs.Syntax.ParamReading

/-!
# Reading tags that are written

Each tag with bodies, each tag that begins a named body and each close tag is read as its segment.
A close tag repeats the key of its open tag as it stands in the source, so the text of the key is
followed to its place in the source.
-/

namespace Dust

/-! ## Places in the source -/

/-- A text stands in the source from a byte on. -/
def Stands (source : List Char) (start : Nat) (text : List Char) : Prop :=
  ∃ before after, source = before ++ (text ++ after) ∧ Text.byteSize before = start

namespace Stands

variable {source front back text : List Char} {start : Nat}

/-- The source stands in itself. -/
theorem self : Stands source 0 source :=
  ⟨[], [], by simp, rfl⟩

/-- The first part of a text stands where the text does. -/
theorem left (stands : Stands source start (front ++ back)) : Stands source start front := by
  obtain ⟨before, after, whole, place⟩ := stands
  exact ⟨before, back ++ after, by rw [whole, List.append_assoc], place⟩

/-- The last part of a text stands behind the first one. -/
theorem right (stands : Stands source start (front ++ back)) :
    Stands source (start + Text.byteSize front) back := by
  obtain ⟨before, after, whole, place⟩ := stands
  refine ⟨before ++ front, after, ?_, ?_⟩
  · rw [whole]
    simp
  · rw [Text.byteSize_append, place]

/-- The inside of a tag stands behind its opening. -/
theorem inside {sigil : Char} {close : List Char}
    (stands : Stands source start ('{' :: sigil :: (text ++ close))) :
    Stands source (start + Text.byteSize ['{', sigil]) text :=
  (@right source ['{', sigil] (text ++ close) start stands).left

/-- The text at the span of a text is the text. -/
theorem textIn (stands : Stands source start text) :
    Span.textIn ⟨start, start + Text.byteSize text⟩ source = text := by
  obtain ⟨before, after, rfl, rfl⟩ := stands
  have size : Text.byteSize before + Text.byteSize text - Text.byteSize before =
      Text.byteSize text := Nat.add_sub_cancel_left _ _
  simp [Span.textIn, Text.slice?, Text.splitBytes?_append, size]

end Stands

/-! ## Ends of tags -/

/-- The end of a tag, which may close the tag itself. -/
def closeText (alone : Bool) : List Char :=
  if alone then ['/', '}'] else ['}']

/-- The token of the end of a tag. -/
def closeKind (alone : Bool) : TokenKind :=
  if alone then .selfClose else .tagEnd

/-- The end of a tag is cut off. -/
theorem Cuts.close (alone : Bool) (later : List Char) (opening : Span) (place : Nat) :
    Cuts (.tag opening) place (closeText alone) [⟨closeKind alone, closeText alone, place⟩] .text
      later := by
  cases alone with
  | false => exact Cuts.tagEnd
  | true => exact Cuts.selfClose

/-- No value goes on with the end of a tag. -/
theorem stops_closeText (alone : Bool) (later : List Char) :
    Stops isValuePart (closeText alone ++ later) := by
  intro c next
  cases alone with
  | false =>
    cases next
    decide
  | true =>
    cases next
    decide

/-- The token of the end of a tag ends it. -/
theorem endsTag_close {alone : Bool} {token : Token} {rest : List Token}
    (kind : token.kind = closeKind alone) : EndsTag ([token] ++ rest) := by
  intro first next
  cases next
  cases alone with
  | false => exact .inl kind
  | true => exact .inr kind

/-- The token of the end of a tag is taken. -/
theorem Input.takeTagEnd_close {input : Input} {alone : Bool} {token : Token}
    {rest : List Token} (kind : token.kind = closeKind alone) :
    input.takeTagEnd ([token] ++ rest) = .ok (token, rest) := by
  have ends : token.kind = .tagEnd ∨ token.kind = .selfClose :=
    @endsTag_close alone token rest kind token rfl
  exact if_pos ends

/-! ## Sections and helpers -/

/-- What the opening of a tag with bodies is. -/
def Head.opens : Head → TokenKind
  | .test .iterate _ => .openSection
  | .test .present _ => .openExists
  | .test .absent _ => .openNotExists
  | .helper _ => .openHelper

/-- The character of a tag with bodies names its opening. -/
theorem Head.ofSigil?_sigil (head : Head) : TokenKind.ofSigil? head.sigil = some head.opens := by
  cases head with
  | test kind key => cases kind <;> rfl
  | helper name => rfl

/-- The opening of a tag with bodies is not that of a partial. -/
theorem Head.opens_ne (head : Head) : head.opens ≠ .openPartial := by
  cases head with
  | test kind key => cases kind <;> simp [opens]
  | helper name => simp [opens]

/-- A tag with bodies can begin with its key. -/
theorem Head.begins {head : Head} (writable : head.isWritable = true) {kind : TokenKind}
    (other : kind ≠ .openPartial) : Begins kind head.writtenKey := by
  cases head with
  | test _ key =>
    obtain ⟨first, rest, written, begins⟩ := Path.written_eq_cons writable
    refine ⟨?_, fun same => absurd same other⟩
    rw [Head.writtenKey, written, beginsTag]
    rcases begins with begins | rfl
    · rw [begins]
      rfl
    · rfl
  | helper name => exact Begins.word writable other

/-- The key of a tag with bodies is cut without gaps, and read as its head. -/
theorem Head.tokens_of_written {opening : Span} {source later : List Char} {start : Nat}
    {head : Head} (writable : head.isWritable = true) (stops : Stops isWordPart later)
    (stands : Stands source start head.writtenKey) :
    ∃ tokens placed, tokens ≠ [] ∧ CutsWhole opening start head.writtenKey tokens later ∧
      placed.unplaced = head.unplaced ∧
      ∀ (failure : Option Located) (first : Token) (rest : List Token),
        first.kind = head.opens → Apart (start + Text.byteSize head.writtenKey) rest →
          Segment.read ⟨source, failure⟩ (Token.stringBody source) .preserve first
              (tokens ++ rest) =
            Segment.readElement ⟨source, failure⟩ (Token.stringBody source) first placed
              (String.ofList head.writtenKey) rest := by
  cases head with
  | test kind key =>
    obtain ⟨tokens, placed, found⟩ :=
      @Path.tokens_of_written key opening start later writable stops
    obtain ⟨front, more, solid, _⟩ := found.begins
    refine ⟨tokens, .test kind placed, by simp [solid], found.whole, ?_, ?_⟩
    · rw [Head.unplaced, Head.unplaced, found.same]
    · intro failure first rest opens apart
      have text : placed.span.textIn source = key.written := by
        rw [found.place]
        exact stands.textIn
      have read : Segment.readSection ⟨source, failure⟩ (Token.stringBody source) kind first
          (tokens ++ rest) = Segment.readElement ⟨source, failure⟩ (Token.stringBody source) first
            (.test kind placed) (String.ofList key.written) rest := by
        simp only [Segment.readSection, found.read_detached ⟨source, failure⟩ apart.detached,
          text, bind, Except.bind]
      rw [Head.writtenKey, ← read]
      cases kind <;> rw [Segment.read.eq_def, opens] <;> rfl
  | helper name =>
    refine ⟨[⟨.identifier, name.name.toList, start⟩],
      .helper (Token.identifier ⟨.identifier, name.name.toList, start⟩), by simp,
      CutsWhole.name writable stops, ?_, ?_⟩
    · rw [Head.unplaced, Head.unplaced, Token.unplaced_identifier]
    · intro failure first rest opens _
      rw [Segment.read.eq_def, opens]
      rfl

/-- The tag of a section or helper is read with its head and its parameters. -/
theorem Yields.element {source later : List Char} {start : Nat} {head : Head}
    {params : List Param} (alone : Bool) (writable : head.isWritable = true)
    (writableParams : params.all Param.isWritable = true)
    (stands : Stands source (start + Text.byteSize ['{', head.sigil]) head.writtenKey) :
    ∃ placed placedParams span, placed.unplaced = head.unplaced ∧
      Param.unplacedAll placedParams = Param.unplacedAll params ∧
      Yields (Token.stringBody source) source start
        ('{' :: head.sigil :: (head.writtenKey ++ Param.writtenAll params ++ closeText alone))
        [if alone then .part (.element placed placedParams none [] span)
          else .opening (.element placed placedParams (String.ofList head.writtenKey) span none []
            none)] later := by
  have begins := (Head.begins writable head.opens_ne).append (Param.writtenAll params)
  obtain ⟨opening, enclosed⟩ :=
    @Cuts.enclosed start _ _ _ _ _ later head.ofSigil?_sigil begins (Cuts.close alone later)
  have stops := stops_closeText alone later
  obtain ⟨tokens, placed, _, whole, same, read⟩ := @Head.tokens_of_written opening source _ _ head
    writable ((stops_writtenAll params).append stops).word stands
  obtain ⟨more, placedParams, found⟩ := @Param.tokens_of_written opening source _ stops params
    writableParams (start + Text.byteSize ['{', head.sigil] + Text.byteSize head.writtenKey)
  obtain ⟨stop, cut⟩ := enclosed _ (whole.cuts.append found.cuts)
  let first : Token := ⟨head.opens, ['{', head.sigil], start⟩
  let last : Token := ⟨closeKind alone, closeText alone, stop⟩
  refine ⟨placed, placedParams, first.span.cover last.span, same, found.same,
    Yields.single cut ?_⟩
  intro failure rest
  have ends : EndsTag ([last] ++ rest) := endsTag_close rfl
  have taken := @Input.takeTagEnd_close ⟨source, failure⟩ alone last rest rfl
  rw [List.append_assoc, List.append_assoc, read failure _ _ rfl (found.apart ends)]
  simp only [Segment.readElement, found.read failure _ ends, bind, Except.bind]
  rw [taken]
  cases alone <;> rfl

/-! ## Blocks and named bodies -/

/-- The name of a token is the name that is written. -/
theorem Token.string_name (name : String) (start : Nat) :
    Token.string ⟨.identifier, name.toList, start⟩ = name := by
  rw [string, String.ofList_toList]

/-- The character after the brace of a block or inline partial. -/
def blockSigil (defines : Bool) : Char :=
  if defines then '<' else '+'

/-- The tag of a block or inline partial is read with its name. -/
theorem Yields.block {readString : Token → Except Located Body} {source later : List Char}
    {start : Nat} (name : Identifier) (alone defines : Bool) (word : isWord name.name = true) :
    ∃ placed : Identifier, placed.name = name.name ∧
      Yields readString source start
        ('{' :: blockSigil defines :: (name.name.toList ++ closeText alone))
        [if alone then
            if defines then .definition name.name else .part (.block placed none)
          else .opening (.block placed defines)] later := by
  let kind : TokenKind := if defines then .openDefinition else .openBlock
  have named : TokenKind.ofSigil? (blockSigil defines) = some kind := by
    cases defines <;> rfl
  have other : kind ≠ .openPartial := by
    cases defines <;> simp [kind]
  have begins := Begins.word word other
  obtain ⟨opening, enclosed⟩ :=
    @Cuts.enclosed start _ _ _ _ _ later named begins (Cuts.close alone later)
  obtain ⟨stop, cut⟩ := enclosed _ (Cuts.name word (stops_closeText alone later).word)
  let token : Token :=
    ⟨.identifier, name.name.toList, start + Text.byteSize ['{', blockSigil defines]⟩
  let last : Token := ⟨closeKind alone, closeText alone, stop⟩
  refine ⟨token.identifier, Token.string_name _ _, Yields.single cut ?_⟩
  intro failure rest
  let input : Input := ⟨source, failure⟩
  have read : Segment.readBlock input defines (token :: ([last] ++ rest)) =
      .ok (if alone then
          if defines then .definition name.name else .part (.block token.identifier none)
        else .opening (.block token.identifier defines), rest) := by
    have taken := @Input.takeTagEnd_close input alone last rest rfl
    have first : input.take .identifier (token :: ([last] ++ rest)) = .ok (token, [last] ++ rest) :=
      Input.take_of_kind rfl
    simp only [Segment.readBlock, first, taken, bind, Except.bind]
    rw [Token.string_name]
    cases alone <;> cases defines <;> rfl
  cases defines <;> exact read

/-- The tag that begins a named body is read with its name. -/
theorem Yields.body {readString : Token → Except Located Body} {source later : List Char}
    {start : Nat} {name : String} (word : isWord name = true) :
    ∃ span, Yields readString source start (writtenTag ':' name.toList) [.body name span]
      later := by
  have begins : Begins .openBody name.toList := Begins.word word (by decide)
  obtain ⟨opening, enclosed⟩ :=
    @Cuts.enclosed start ':' _ _ _ _ later rfl begins (Cuts.close false later)
  obtain ⟨stop, cut⟩ := enclosed _ (Cuts.name word (stops_closeText false later).word)
  let first : Token := ⟨.openBody, ['{', ':'], start⟩
  let token : Token := ⟨.identifier, name.toList, start + Text.byteSize ['{', ':']⟩
  let last : Token := ⟨.tagEnd, ['}'], stop⟩
  refine ⟨first.span.cover last.span, Yields.single cut fun failure rest => ?_⟩
  let input : Input := ⟨source, failure⟩
  have taken : input.take .identifier (token :: ([last] ++ rest)) = .ok (token, [last] ++ rest) :=
    Input.take_of_kind rfl
  have ending : input.take .tagEnd ([last] ++ rest) = .ok (last, rest) :=
    Input.take_of_kind rfl
  show Segment.readBody input first (token :: ([last] ++ rest)) = _
  simp only [Segment.readBody, taken, ending, bind, Except.bind]
  rw [Token.string_name]

/-! ## Close tags -/

/-- The key of a close tag is everything before the end of the tag. -/
theorem Input.takeCloseKey_eq {input : Input} {opening : Span} {start : Nat}
    {key later : List Char} {tokens rest : List Token} {last : Token}
    (whole : CutsWhole opening start key tokens later) (solid : tokens ≠ [])
    (stands : Stands input.source start key) (ends : last.kind = .tagEnd) :
    input.takeCloseKey (tokens ++ (last :: rest)) = .ok (String.ofList key, last :: rest) := by
  have inside : ∀ token ∈ tokens, decide (token.kind ≠ .tagEnd) = true :=
    fun token mem => decide_eq_true (whole.goesOn token mem)
  have taken : (tokens ++ last :: rest).takeWhile (·.kind ≠ .tagEnd) = tokens := by
    rw [List.takeWhile_append_of_pos inside]
    simp [ends]
  have left : (tokens ++ last :: rest).dropWhile (·.kind ≠ .tagEnd) = last :: rest := by
    rw [List.dropWhile_append_of_pos inside]
    simp [ends]
  unfold takeCloseKey
  rw [taken, left]
  cases tokens with
  | nil => exact absurd rfl solid
  | cons first more =>
    simp only [whole.tiles.spanOf, stands.textIn]

/-- A close tag is read with its key. -/
theorem Yields.closing {readString : Token → Except Located Body} {source later key : List Char}
    {start : Nat} (begins : Begins .openClose key)
    (stands : Stands source (start + Text.byteSize ['{', '/']) key)
    (whole : ∀ opening, ∃ tokens, tokens ≠ [] ∧
      CutsWhole opening (start + Text.byteSize ['{', '/']) key tokens ('}' :: later)) :
    ∃ span, Yields readString source start (writtenTag '/' key)
      [.closing (String.ofList key) span] later := by
  obtain ⟨opening, enclosed⟩ :=
    @Cuts.enclosed start '/' _ _ _ _ later rfl begins (Cuts.close false later)
  obtain ⟨tokens, solid, whole⟩ := whole opening
  obtain ⟨stop, cut⟩ := enclosed _ whole.cuts
  let first : Token := ⟨.openClose, ['{', '/'], start⟩
  let last : Token := ⟨.tagEnd, ['}'], stop⟩
  refine ⟨first.span.cover last.span, Yields.single cut fun failure rest => ?_⟩
  let input : Input := ⟨source, failure⟩
  have taken : input.takeCloseKey (tokens ++ (last :: rest)) =
      .ok (String.ofList key, last :: rest) :=
    Input.takeCloseKey_eq whole solid stands rfl
  have ending : input.take .tagEnd (last :: rest) = .ok (last, rest) :=
    Input.take_of_kind rfl
  rw [List.append_assoc]
  show Segment.readClosing input first (tokens ++ (last :: rest)) = _
  simp only [Segment.readClosing, taken, ending, bind, Except.bind]

end Dust
