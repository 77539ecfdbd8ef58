import Dust.Proofs.Syntax.StringReading

/-!
# Reading parameters that are written

The value of a parameter ends where blank space or the end of the tag follows, so that the next
parameter does not go on with it. The name and the path of a partial are read in the same way.
-/

namespace Dust

/-- Whether the text of a value could go on with a character. -/
def isValuePart (c : Char) : Bool :=
  isWordPart c || c = '.'

/-- Where a value cannot go on a word cannot either. -/
theorem Stops.word {later : List Char} (stops : Stops isValuePart later) :
    Stops isWordPart later := by
  intro c next
  have stop := stops c next
  rw [isValuePart, Bool.or_eq_false_iff] at stop
  exact stop.1

/-- Where a value cannot go on a number cannot either. -/
theorem Stops.number {later : List Char} (stops : Stops isValuePart later) :
    Stops (fun c => c.isDigit || c = '.') later := by
  intro c next
  have stop := stops c next
  rw [isValuePart, Bool.or_eq_false_iff] at stop
  rw [Bool.or_eq_false_iff]
  refine ⟨?_, stop.2⟩
  cases digit : c.isDigit with
  | false => rfl
  | true => rw [← stop.1, isWordPart_of_isDigit digit]

/-- Tokens that go on with the end of a tag or with a name apart from what stops at a byte, if they
go on. -/
def Apart (stop : Nat) (tokens : List Token) : Prop :=
  ∀ token ∈ tokens.head?,
    token.kind = .tagEnd ∨ token.kind = .selfClose ∨
      (token.kind = .identifier ∧ token.start ≠ stop)

/-- A path does not go on with such tokens. -/
theorem Apart.detached {stop : Nat} {tokens : List Token} (apart : Apart stop tokens) :
    Detached stop tokens := by
  intro token next place
  rcases apart token next with kind | kind | ⟨_, other⟩
  · simp [kind]
  · simp [kind]
  · exact absurd place other

/-! ## Values -/

/-- The text of a value is cut into tokens that the reader takes for it. -/
structure ArgumentTokens (opening : Span) (source : List Char) (start : Nat) (argument : Argument)
    (later : List Char) (tokens : List Token) (placed : Argument) : Prop where
  /-- The tokens of the text. -/
  cuts : Cuts (.tag opening) start argument.written tokens (.tag opening) later
  /-- What is read is the value. -/
  same : placed.unplaced = argument.unplaced
  /-- The reader takes the tokens. -/
  read : ∀ (failure : Option Located) (rest : List Token),
    Apart (start + Text.byteSize argument.written) rest →
      Argument.read ⟨source, failure⟩ (Token.stringBody source) (tokens ++ rest) =
        .ok (placed, rest)

/-- A number is read where it cannot go on. -/
theorem Cuts.integer {opening : Span} {start : Nat} {later : List Char} (n : Int64)
    (stops : Stops isValuePart later) :
    Cuts (.tag opening) start (Number.intText n.toInt)
      [⟨.number, Number.intText n.toInt, start⟩] (.tag opening) later := by
  unfold Number.intText
  split
  · rename_i magnitude _
    obtain ⟨first, rest, written, digit, all⟩ := Number.natText_eq_cons magnitude
    rw [written]
    exact Cuts.number digit all stops.number
  · rename_i magnitude _
    obtain ⟨first, rest, written, digit, all⟩ := Number.natText_eq_cons (magnitude + 1)
    rw [written]
    exact Cuts.minus digit all stops.number

/-- A string of texts and references is cut off at its closing quote. -/
theorem Cuts.interpolated {opening : Span} {start : Nat} {later : List Char} {body : Body}
    (writable : Body.isWritableString body = true) :
    Cuts (.tag opening) start ('"' :: (Part.writtenBody body ++ ['"']))
      [⟨.string, '"' :: (Part.writtenBody body ++ ['"']), start⟩] (.tag opening) later := by
  simp only [Body.isWritableString, Bool.and_eq_true] at writable
  refine Cuts.string fun c mem => ?_
  obtain ⟨part, isPart, mem⟩ := Part.mem_writtenBody.mp mem
  exact ne_of_mem_written (List.all_eq_true.mp writable.1.1 part isPart) c mem

/-- A value is read where it cannot go on. -/
theorem Argument.tokens_of_written {opening : Span} {source : List Char} {start : Nat}
    {argument : Argument} {later : List Char} (writable : argument.isWritable = true)
    (stops : Stops isValuePart later) :
    ∃ tokens placed, ArgumentTokens opening source start argument later tokens placed := by
  cases argument with
  | path way =>
    obtain ⟨tokens, placed, found⟩ := @Path.tokens_of_written way opening start later writable
      stops.word
    refine ⟨tokens, .path placed, found.whole.cuts, ?_, ?_⟩
    · rw [Argument.unplaced, Argument.unplaced, found.same]
    · intro failure rest apart
      have read := found.read_detached ⟨source, failure⟩ apart.detached
      obtain ⟨first, more, rfl, begins⟩ := found.begins
      rw [List.cons_append] at read ⊢
      rcases begins with kind | kind <;>
        simp only [Argument.read, kind, read, bind, Except.bind]
  | literal literal =>
    cases literal with
    | string text =>
      have plain := List.all_eq_true.mp writable
      obtain ⟨body, read, isText⟩ := @Token.stringBody_plain source text start writable
      refine ⟨[⟨.string, quotedText text, start⟩], .literal (.string text), ?_, rfl, ?_⟩
      · exact Cuts.string fun c mem => (ne_of_isPlain (plain c mem)).2
      · intro failure rest _
        rw [List.singleton_append]
        simp only [Argument.read, read, Argument.ofBody, isText, bind, Except.bind]
    | integer n =>
      refine ⟨[⟨.number, Number.intText n.toInt, start⟩], .literal (.integer n),
        Cuts.integer n stops, rfl, ?_⟩
      intro failure rest _
      rw [List.singleton_append]
      simp only [Argument.read, Token.literal, Number.readInt64?_intText, bind, Except.bind]
    | float x => cases writable
  | interpolated body =>
    obtain ⟨placed, read, same, noText⟩ := @Token.stringBody_interpolated source body start writable
    refine ⟨[⟨.string, '"' :: (Part.writtenBody body ++ ['"']), start⟩], .interpolated placed,
      ?_, ?_, ?_⟩
    · exact Cuts.interpolated writable
    · rw [Argument.unplaced, Argument.unplaced, same]
    · intro failure rest _
      rw [List.singleton_append]
      simp only [Argument.read, read, Argument.ofBody, noText, bind, Except.bind]

/-! ## Parameters -/

/-- The text of parameters is cut into tokens that the reader takes for them. -/
structure ParamTokens (opening : Span) (source : List Char) (start : Nat) (params : List Param)
    (later : List Char) (tokens : List Token) (placed : List Param) : Prop where
  /-- The tokens of the text. -/
  cuts : Cuts (.tag opening) start (Param.writtenAll params) tokens (.tag opening) later
  /-- They begin apart from what is before them. -/
  begins : ∀ token ∈ tokens.head?, token.kind = .identifier ∧ token.start ≠ start
  /-- What is read are the parameters. -/
  same : Param.unplacedAll placed = Param.unplacedAll params
  /-- The reader takes the tokens. -/
  read : ∀ (failure : Option Located) (rest : List Token), EndsTag rest →
    Param.readAll ⟨source, failure⟩ (Token.stringBody source) (tokens ++ rest) =
      .ok (placed, rest)

/-- The tokens of parameters and the end of the tag are apart from what is before them. -/
theorem ParamTokens.apart {opening : Span} {source : List Char} {start : Nat}
    {params placed : List Param} {later : List Char} {tokens rest : List Token}
    (found : ParamTokens opening source start params later tokens placed) (ends : EndsTag rest) :
    Apart start (tokens ++ rest) := by
  intro token next
  cases tokens with
  | nil => exact (ends token next).imp_right .inl
  | cons first more => exact .inr (.inr (found.begins token next))

/-- A parameter is read before the parameters that follow it. -/
theorem Param.readAll_cons {input : Input} {readString : Token → Except Located Body}
    {name equals : Token} {tokens later left : List Token} {argument : Argument}
    {params : List Param} (isName : name.kind = .identifier) (isEquals : equals.kind = .equals)
    (value : Argument.read input readString tokens = .ok (argument, later))
    (behind : Param.readAll input readString later = .ok (params, left)) :
    Param.readAll input readString (name :: equals :: tokens) =
      .ok (⟨name.identifier, argument⟩ :: params, left) := by
  have taken : input.take .equals (equals :: tokens) = .ok (equals, tokens) := if_pos isEquals
  rw [Param.readAll, if_pos isName]
  split
  · rename_i failed
    rw [taken] at failed
    cases failed
  · rename_i same
    rw [taken] at same
    cases same
    split
    · rename_i failed
      rw [value] at failed
      cases failed
    · rename_i same
      rw [value] at same
      cases same
      simp only [behind, bind, Except.bind]

/-- No value goes on with the text of parameters. -/
theorem stops_writtenAll (params : List Param) : Stops isValuePart (Param.writtenAll params) := by
  intro c next
  cases params with
  | nil => cases next
  | cons param rest =>
    obtain ⟨name, argument⟩ := param
    rw [Param.writtenAll, Param.written] at next
    cases next
    decide

/-- A word does not begin with blank space. -/
theorem stops_isWord {name : String} {text : List Char} (word : isWord name = true) :
    Stops isTagSpace (name.toList ++ text) := by
  obtain ⟨first, rest, letters, begins, _⟩ := isWord_eq_cons word
  intro c next
  rw [letters] at next
  cases next
  exact isTagSpace_eq_false_of_isWordStart begins

/-- Parameters are read where a value cannot go on. -/
theorem Param.tokens_of_written {opening : Span} {source : List Char} {later : List Char}
    (stops : Stops isValuePart later) {params : List Param}
    (writable : params.all Param.isWritable = true) (start : Nat) :
    ∃ tokens placed, ParamTokens opening source start params later tokens placed := by
  induction params generalizing start with
  | nil =>
    refine ⟨[], [], Cuts.nil, by simp, rfl, ?_⟩
    intro failure rest ends
    cases rest with
    | nil => rw [List.nil_append, Param.readAll]
    | cons first more =>
      have other : first.kind ≠ .identifier := by
        rcases ends first rfl with kind | kind <;> simp [kind]
      rw [List.nil_append, Param.readAll, if_neg other]
  | cons param params induction =>
    obtain ⟨name, argument⟩ := param
    rw [List.all_cons, Bool.and_eq_true, Param.isWritable, Bool.and_eq_true] at writable
    obtain ⟨⟨word, value⟩, others⟩ := writable
    obtain ⟨tokens, placed, first⟩ :=
      @Argument.tokens_of_written opening source (start + 1 + Text.byteSize name.name.toList + 1)
        argument (Param.writtenAll params ++ later) value ((stops_writtenAll params).append stops)
    obtain ⟨more, rest, behind⟩ := induction others
      (start + 1 + Text.byteSize name.name.toList + 1 + Text.byteSize argument.written)
    have written : Param.writtenAll (⟨name, argument⟩ :: params) =
        [' '] ++ (name.name.toList ++ (['='] ++
          (argument.written ++ Param.writtenAll params))) := by
      simp [Param.writtenAll, Param.written]
    refine ⟨⟨.identifier, name.name.toList, start + 1⟩ ::
      ⟨.equals, ['='], start + 1 + Text.byteSize name.name.toList⟩ :: (tokens ++ more),
      ⟨Token.identifier ⟨.identifier, name.name.toList, start + 1⟩, placed⟩ :: rest, ?_, ?_, ?_,
      ?_⟩
    · have equals : Stops isWordPart
          ((['='] ++ (argument.written ++ Param.writtenAll params)) ++ later) := .cons (by decide)
      rw [written]
      refine Cuts.append (Cuts.space ?_) (Cuts.append (Cuts.name word equals)
        (Cuts.append (Cuts.mark rfl (by decide) (by decide)) (first.cuts.append behind.cuts)))
      rw [List.append_assoc]
      exact stops_isWord word
    · simp
    · rw [Param.unplacedAll, Param.unplacedAll, behind.same, Param.unplaced, Param.unplaced,
        first.same, Token.unplaced_identifier]
    · intro failure left ends
      rw [List.cons_append, List.cons_append, List.append_assoc]
      exact Param.readAll_cons rfl rfl (first.read failure _ (behind.apart ends))
        (behind.read failure left ends)

/-! ## Names and paths of partials -/

/-- The name of a partial is read from its quotes. -/
theorem Target.tokens_of_written {opening : Span} {source : List Char} {start : Nat}
    {target : Target} {later : List Char} (writable : target.isWritable = true) :
    ∃ token placed,
      Cuts (.tag opening) start target.written [token] (.tag opening) later ∧
        placed.unplaced = target.unplaced ∧
        ∀ failure rest,
          Target.read ⟨source, failure⟩ (Token.stringBody source) (token :: rest) =
            .ok (placed, rest) := by
  cases target with
  | static name =>
    have plain := List.all_eq_true.mp writable
    obtain ⟨body, read, isText⟩ := @Token.stringBody_plain source name start writable
    refine ⟨⟨.string, quotedText name, start⟩, .static name,
      Cuts.string fun c mem => (ne_of_isPlain (plain c mem)).2, rfl, ?_⟩
    intro failure rest
    simp only [Target.read, read, isText, bind, Except.bind]
  | dynamic body =>
    obtain ⟨placed, read, same, noText⟩ := @Token.stringBody_interpolated source body start writable
    refine ⟨⟨.string, '"' :: (Part.writtenBody body ++ ['"']), start⟩, .dynamic placed,
      Cuts.interpolated writable, ?_, ?_⟩
    · rw [Target.unplaced, Target.unplaced, same]
    · intro failure rest
      simp only [Target.read, read, noText, bind, Except.bind]

/-- The path of a partial is read behind its colon. -/
theorem Path.tokens_of_context {opening : Span} {start : Nat} {context : Option Path}
    {later : List Char} (writable : context.all Path.isWritable = true)
    (stops : Stops isWordPart later) :
    ∃ tokens placed,
      Cuts (.tag opening) start (Path.writtenContext context) tokens (.tag opening) later ∧
        placed.map Path.unplaced = context.map Path.unplaced ∧
        ∀ (input : Input) (rest : List Token),
          Apart (start + Text.byteSize (Path.writtenContext context)) rest →
            input.takeContext (tokens ++ rest) = .ok (placed, rest) := by
  cases context with
  | none =>
    refine ⟨[], none, Cuts.nil, rfl, ?_⟩
    intro input rest apart
    rw [List.nil_append]
    cases rest with
    | nil => rfl
    | cons first more =>
      have other : first.kind ≠ .colon := by
        rcases apart first rfl with kind | kind | ⟨kind, _⟩ <;> simp [kind]
      exact if_neg other
  | some path =>
    obtain ⟨tokens, placed, found⟩ :=
      @Path.tokens_of_written path opening (start + 1) later writable stops
    have mark : Cuts (.tag opening) start [':'] [⟨.colon, [':'], start⟩] (.tag opening)
        (path.written ++ later) := Cuts.mark rfl (by decide) (by decide)
    refine ⟨⟨.colon, [':'], start⟩ :: tokens, some placed, mark.append found.whole.cuts, ?_, ?_⟩
    · rw [Option.map_some, Option.map_some, found.same]
    · intro input rest apart
      rw [writtenContext, Text.byteSize_cons, ← Nat.add_assoc] at apart
      simp only [List.cons_append, Input.takeContext, ↓reduceIte,
        found.read_detached input apart.detached, bind, Except.bind]

end Dust
