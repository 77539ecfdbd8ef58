import Dust.Proofs.Syntax.Compiled

/-!
# Places of faults

A source that is no template has its fault at a place in it. A fault of the tokens is at the text
that is no token or at the opening of the tag that is not ended; a fault of reading is at a token,
at the end of the source or where the tokens fail; a fault of putting segments together is at a tag.
-/

namespace Dust

variable {source : List Char} {input : Input}

/-- Whatever fails, fails at a place in the source. -/
def FailsIn (source : List Char) {α : Type} (result : Except Located α) : Prop :=
  ∀ located, result = .error located → located.span.IsIn source

namespace FailsIn

variable {α β : Type}

/-- What succeeds does not fail. -/
theorem ok (value : α) : FailsIn source (.ok value : Except Located α) := nofun

/-- A fault at a place in the source. -/
theorem error {located : Located} (inside : located.span.IsIn source) :
    FailsIn source (.error located : Except Located α) := by
  rintro other ⟨⟩
  exact inside

/-- Two steps in a row fail in the source if the first one does, and the second one after it. -/
theorem bind {first : Except Located α} {second : α → Except Located β}
    (opened : FailsIn source first)
    (goesOn : ∀ value, first = .ok value → FailsIn source (second value)) :
    FailsIn source (first >>= second) := by
  cases first with
  | error located => exact error (opened located rfl)
  | ok value => exact goesOn value rfl

end FailsIn

/-! ### Tokens -/

/-- The end of a source is a place in it. -/
theorem Span.isIn_end (source : List Char) :
    Span.IsIn source ⟨Text.byteSize source, Text.byteSize source⟩ :=
  ⟨⟨source, List.prefix_rfl, rfl⟩, ⟨source, List.prefix_rfl, rfl⟩, Nat.le_refl _⟩

/-- The opening of the tag that a text is in lies in the source. -/
def TokenMode.IsIn (source : List Char) : TokenMode → Prop
  | text => True
  | tag opening => opening.IsIn source
  | partialName opening => opening.IsIn source

/-- After a token in the source the opening of the tag lies in the source. -/
theorem TokenMode.IsIn.after {mode : TokenMode} (inside : mode.IsIn source) {token : Token}
    (here : token.span.IsIn source) (rest : List Char) : (mode.after token rest).IsIn source := by
  cases mode with
  | text =>
    simp only [TokenMode.after]
    split
    · split
      · exact here
      · exact here
    · trivial
  | tag opening =>
    simp only [TokenMode.after]
    split
    · trivial
    · exact inside
  | partialName opening => exact inside

/-- The tokens of a text in a source fail in the source. -/
theorem Token.stream_failure {mode : TokenMode} {start : Nat} {text before after : List Char}
    (same : source = before ++ text ++ after) (size : start = Text.byteSize before)
    (inside : mode.IsIn source) :
    ∀ located ∈ (Token.stream mode start text).failure, located.span.IsIn source := by
  fun_induction Token.stream mode start text generalizing before with
  | case1 mode start =>
    cases mode with
    | text => simp [TokenMode.failureAtEnd]
    | tag opening => simpa [TokenMode.failureAtEnd, TokenMode.IsIn] using inside
    | partialName opening => simpa [TokenMode.failureAtEnd, TokenMode.IsIn] using inside
  | case2 mode start first rest fault more scan =>
    simpa using (Span.Shows.taken same size more).isIn
  | case3 mode start first rest kind more scan token =>
    rename_i induction
    have whole : first :: rest = token.text ++ rest.drop more := by
      rw [List.cons_append, List.take_append_drop]
    have shows : token.span.Shows source token.text := Span.Shows.taken same size more
    exact @induction (before ++ token.text) (by rw [same, whole]; simp)
      (by simp [token, stop, size, Text.byteSize_append]) (inside.after shows.isIn _)

/-! ### Readers -/

/-- A reader knows the source that the tokens stand in, and they fail in it. -/
structure Input.IsOf (source : List Char) (input : Input) : Prop where
  /-- The source is the one that the reader knows. -/
  source_eq : input.source = source
  /-- The tokens fail in it. -/
  failure : ∀ located ∈ input.failure, located.span.IsIn source

/-- What is missing after the last token is missing at a place in the source. -/
theorem Input.IsOf.ended (known : input.IsOf source) (wanted : Expectation) :
    (input.ended wanted).span.IsIn source := by
  unfold Input.ended
  cases failed : input.failure with
  | none =>
    simp only [Option.getD_none, known.source_eq]
    exact Span.isIn_end source
  | some located => exact known.failure located failed

variable {tokens : List Token} {readString : Token → Except Located Body}

/-- Taking a token fails in the source. -/
theorem Input.take_failsIn (known : input.IsOf source) (placed : Token.Placed source tokens)
    (kind : TokenKind) : FailsIn source (input.take kind tokens) := by
  cases tokens with
  | nil => exact .error (known.ended _)
  | cons token rest =>
    unfold take
    dsimp only
    split
    · exact .ok _
    · exact .error (placed.isIn List.mem_cons_self)

/-- Taking the end of a tag fails in the source. -/
theorem Input.takeTagEnd_failsIn (known : input.IsOf source) (placed : Token.Placed source tokens) :
    FailsIn source (input.takeTagEnd tokens) := by
  cases tokens with
  | nil => exact .error (known.ended _)
  | cons token rest =>
    unfold takeTagEnd
    dsimp only
    split
    · exact .ok _
    · exact .error (placed.isIn List.mem_cons_self)

/-- Taking the key of a close tag fails in the source. -/
theorem Input.takeCloseKey_failsIn (known : input.IsOf source) (tokens : List Token) :
    FailsIn source (input.takeCloseKey tokens) := by
  unfold takeCloseKey
  split
  · exact .error (known.ended _)
  · exact .ok _

/-- Reading a position fails at its token. -/
theorem Token.index_failsIn {token : Token} (inside : token.span.IsIn source) :
    FailsIn source token.index := by
  unfold index
  split
  · exact .ok _
  · exact .error inside

/-- Reading a number fails at its token. -/
theorem Token.literal_failsIn {token : Token} (inside : token.span.IsIn source) :
    FailsIn source token.literal := by
  unfold literal
  split
  · exact .ok _
  · split
    · exact .ok _
    · exact .error inside

namespace Path

mutual

/-- Reading a path fails in the source. -/
theorem readStart_failsIn (known : input.IsOf source) :
    ∀ {outer : List Path} {tokens : List Token}, Token.Placed source tokens →
      FailsIn source (readStart input outer tokens)
  | outer, [], placed => by
    rw [readStart]
    exact .error (known.ended _)
  | outer, token :: later, placed => by
    unfold readStart
    split
    · exact readKeys_failsIn known placed.tail
    · split
      · exact readKeys_failsIn known placed.tail
      · split
        · exact readKeys_failsIn known placed.tail.tail
        · exact readKeys_failsIn known placed.tail
    · exact .error (placed.isIn List.mem_cons_self)

/-- Reading the rest of a path fails in the source. -/
theorem readKeys_failsIn (known : input.IsOf source) :
    ∀ {outer : List Path} {path : Path} {tokens : List Token}, Token.Placed source tokens →
      FailsIn source (readKeys input outer path tokens)
  | outer, path, [], placed => by
    unfold readKeys
    split
    · exact .ok _
    · exact .error (known.ended _)
  | outer, path, token :: later, placed => by
    unfold readKeys
    split
    · split
      · exact .error (known.ended _)
      · rename_i key after
        have inside := placed.tail.isIn List.mem_cons_self
        split
        · exact readKeys_failsIn known placed.tail.tail
        · exact (Token.index_failsIn inside).bind fun _ _ =>
            readKeys_failsIn known placed.tail.tail
        · exact .error inside
    · split
      · split
        · rw [readStart]
          exact .error (known.ended _)
        · rename_i number after
          split
          · refine (Token.index_failsIn (placed.tail.isIn List.mem_cons_self)).bind fun _ _ => ?_
            split
            · exact .error (known.ended _)
            · split
              · exact readKeys_failsIn known placed.tail.tail.tail
              · exact .error (placed.tail.tail.isIn List.mem_cons_self)
          · exact readStart_failsIn known placed.tail
      · split
        · exact .ok _
        · split
          · exact readKeys_failsIn known placed.tail
          · exact .error (placed.isIn List.mem_cons_self)

end

/-- Reading a path fails in the source. -/
theorem read_failsIn (known : input.IsOf source) (placed : Token.Placed source tokens) :
    FailsIn source (read input tokens) :=
  readStart_failsIn known placed

end Path

/-- Reading filters fails in the source. -/
theorem Identifier.readFilters_failsIn (known : input.IsOf source)
    (placed : Token.Placed source tokens) : FailsIn source (readFilters input tokens) := by
  fun_induction readFilters input tokens with
  | case1 => exact .ok _
  | case2 => exact .error (known.ended _)
  | case3 pipe _ name later _ induction =>
    exact (induction placed.tail.tail).bind fun _ _ => .ok _
  | case4 => exact .error (placed.tail.isIn List.mem_cons_self)
  | case5 => exact .ok _

/-- Strings that stand in the source are read as bodies in place or fail in the source. -/
structure ReadsStrings (source : List Char) (readString : Token → Except Located Body) :
    Prop where
  /-- The bodies are in place. -/
  placed : ReadsPlaced source readString
  /-- The faults are in the source. -/
  fails : ∀ token, token.kind = .string → token.span.Shows source token.text →
    token.IsSpelled → FailsIn source (readString token)

/-- Reading the first of some tokens as a string fails in the source. -/
theorem ReadsStrings.first_failsIn (strings : ReadsStrings source readString) {token : Token}
    (placed : Token.Placed source (token :: tokens)) (kind : token.kind = .string) :
    FailsIn source (readString token) :=
  strings.fails token kind (placed.shown token List.mem_cons_self)
    (placed.spelled token List.mem_cons_self)

/-- Reading the value of a parameter fails in the source. -/
theorem Argument.read_failsIn (strings : ReadsStrings source readString)
    (known : input.IsOf source) (placed : Token.Placed source tokens) :
    FailsIn source (Argument.read input readString tokens) := by
  cases tokens with
  | nil => exact .error (known.ended _)
  | cons token rest =>
    have inside := placed.isIn List.mem_cons_self
    unfold Argument.read
    dsimp only
    split
    · exact (strings.first_failsIn placed (by assumption)).bind fun _ _ => .ok _
    · exact (Token.literal_failsIn inside).bind fun _ _ => .ok _
    · exact (Path.read_failsIn known placed).bind fun _ _ => .ok _
    · exact (Path.read_failsIn known placed).bind fun _ _ => .ok _
    · exact .error inside

/-- Reading parameters fails in the source. -/
theorem Param.readAll_failsIn (strings : ReadsStrings source readString)
    (known : input.IsOf source) (placed : Token.Placed source tokens) :
    FailsIn source (Param.readAll input readString tokens) := by
  fun_induction Param.readAll input readString tokens with
  | case1 => exact .ok _
  | case2 name rest _ fault missing =>
    exact .error (Input.take_failsIn known placed.tail _ fault missing)
  | case3 name rest _ _ valueOn equals fault missing =>
    have value_placed := placed.tail.suffix (Input.take_suffix equals)
    exact .error (Argument.read_failsIn strings known value_placed fault missing)
  | case4 name rest _ _ valueOn equals value later found induction =>
    have value_placed := placed.tail.suffix (Input.take_suffix equals)
    obtain ⟨first, second, rfl, suffix⟩ := Argument.read_suffix found
    exact (induction (value_placed.tail.suffix suffix)).bind fun _ _ => .ok _
  | case5 => exact .ok _

/-! ### Segments -/

/-- Reading the name of a partial fails in the source. -/
theorem Target.read_failsIn (strings : ReadsStrings source readString)
    (known : input.IsOf source) (placed : Token.Placed source tokens) :
    FailsIn source (Target.read input readString tokens) := by
  cases tokens with
  | nil => exact .error (known.ended _)
  | cons token rest =>
    unfold Target.read
    dsimp only
    split
    · exact .ok _
    · refine (strings.first_failsIn placed (by assumption)).bind fun _ _ => ?_
      split <;> exact .ok _
    · exact .error (placed.isIn List.mem_cons_self)

/-- Taking the context of a partial fails in the source. -/
theorem Input.takeContext_failsIn (known : input.IsOf source)
    (placed : Token.Placed source tokens) : FailsIn source (input.takeContext tokens) := by
  cases tokens with
  | nil => exact .ok _
  | cons token rest =>
    unfold takeContext
    dsimp only
    split
    · exact (Path.read_failsIn known placed.tail).bind fun _ _ => .ok _
    · exact .ok _

namespace Segment

variable {first : Token} {rest : List Token} {segment : Segment}

/-- Reading a reference fails in the source. -/
theorem readReference_failsIn (known : input.IsOf source) (placed : Token.Placed source tokens) :
    FailsIn source (readReference input first tokens) := by
  refine (Path.read_failsIn known placed).bind fun path pathRead => ?_
  have filters_placed := placed.suffix (readPath_suffix pathRead)
  refine (Identifier.readFilters_failsIn known filters_placed).bind fun filters filtersRead => ?_
  have last_placed := filters_placed.suffix (Identifier.readFilters_suffix filtersRead)
  exact (Input.take_failsIn known last_placed _).bind fun _ _ => .ok _

/-- Reading the rest of a section or helper fails in the source. -/
theorem readElement_failsIn (strings : ReadsStrings source readString)
    (known : input.IsOf source) (placed : Token.Placed source tokens) (head : Head)
    (key : String) : FailsIn source (readElement input readString first head key tokens) := by
  refine (Param.readAll_failsIn strings known placed).bind fun params paramsRead => ?_
  have last_placed := placed.suffix (Param.readAll_suffix paramsRead)
  refine (Input.takeTagEnd_failsIn known last_placed).bind fun last _ => ?_
  dsimp only
  split <;> exact .ok _

/-- Reading a section fails in the source. -/
theorem readSection_failsIn (strings : ReadsStrings source readString)
    (known : input.IsOf source) (placed : Token.Placed source tokens) (kind : SectionKind) :
    FailsIn source (readSection input readString kind first tokens) :=
  (Path.read_failsIn known placed).bind fun _ pathRead =>
    readElement_failsIn strings known (placed.suffix (readPath_suffix pathRead)) _ _

/-- Reading a call of a helper fails in the source. -/
theorem readHelper_failsIn (strings : ReadsStrings source readString)
    (known : input.IsOf source) (placed : Token.Placed source tokens) :
    FailsIn source (readHelper input readString first tokens) :=
  (Input.take_failsIn known placed _).bind fun _ nameRead =>
    readElement_failsIn strings known (placed.suffix (Input.take_suffix nameRead)) _ _

/-- Reading a block or inline partial fails in the source. -/
theorem readBlock_failsIn (known : input.IsOf source) (placed : Token.Placed source tokens)
    (defines : Bool) : FailsIn source (readBlock input defines tokens) := by
  refine (Input.take_failsIn known placed _).bind fun name nameRead => ?_
  have last_placed := placed.suffix (Input.take_suffix nameRead)
  refine (Input.takeTagEnd_failsIn known last_placed).bind fun last _ => ?_
  dsimp only
  split
  · split <;> exact .ok _
  · exact .ok _

/-- Reading a partial fails in the source. -/
theorem readPartial_failsIn (strings : ReadsStrings source readString)
    (known : input.IsOf source) (placed : Token.Placed source tokens) :
    FailsIn source (readPartial input readString first tokens) := by
  refine (Target.read_failsIn strings known placed).bind fun target targetRead => ?_
  have context_placed := placed.suffix (readTarget_suffix targetRead)
  refine (Input.takeContext_failsIn known context_placed).bind fun context contextRead => ?_
  have params_placed := context_placed.suffix (takeContext_suffix contextRead)
  refine (Param.readAll_failsIn strings known params_placed).bind fun params paramsRead => ?_
  have last_placed := params_placed.suffix (Param.readAll_suffix paramsRead)
  exact (Input.take_failsIn known last_placed _).bind fun _ _ => .ok _

/-- Reading the tag of a named body fails in the source. -/
theorem readBody_failsIn (known : input.IsOf source) (placed : Token.Placed source tokens) :
    FailsIn source (readBody input first tokens) :=
  (Input.take_failsIn known placed _).bind fun _ nameRead =>
    (Input.take_failsIn known (placed.suffix (Input.take_suffix nameRead)) _).bind fun _ _ => .ok _

/-- Reading a close tag fails in the source. -/
theorem readClosing_failsIn (known : input.IsOf source) (placed : Token.Placed source tokens) :
    FailsIn source (readClosing input first tokens) :=
  (Input.takeCloseKey_failsIn known tokens).bind fun _ keyRead =>
    (Input.take_failsIn known (placed.suffix (takeCloseKey_suffix keyRead)) _).bind
      fun _ _ => .ok _

/-- Reading a segment fails in the source. -/
theorem read_failsIn (strings : ReadsStrings source readString) (known : input.IsOf source)
    (whitespace : Whitespace) (placed : Token.Placed source (first :: tokens)) :
    FailsIn source (read input readString whitespace first tokens) := by
  have inside := placed.isIn List.mem_cons_self
  unfold read
  split
  · exact .ok _
  · exact .ok _
  · exact .ok _
  · split
    · exact .ok _
    · exact .error inside
  · exact readReference_failsIn known placed.tail
  · exact readSection_failsIn strings known placed.tail _
  · exact readSection_failsIn strings known placed.tail _
  · exact readSection_failsIn strings known placed.tail _
  · exact readHelper_failsIn strings known placed.tail
  · exact readBlock_failsIn known placed.tail _
  · exact readBlock_failsIn known placed.tail _
  · exact readPartial_failsIn strings known placed.tail
  · exact readBody_failsIn known placed.tail
  · exact readClosing_failsIn known placed.tail
  · exact .error inside

/-- The tag that begins a named body lies in the source. -/
def BeginsIn (source : List Char) : Segment → Prop
  | body _ span => span.IsIn source
  | _ => True

/-- The rest of a section or helper begins no named body. -/
theorem readElement_beginsIn {head : Head} {key : String}
    (found : readElement input readString first head key tokens = .ok (segment, rest)) :
    segment.BeginsIn source := by
  obtain ⟨_, _, -, complete | opened⟩ := readElement_cases found
  · trivial
  · trivial

/-- A block or inline partial begins no named body. -/
theorem readBlock_beginsIn {defines : Bool}
    (found : readBlock input defines tokens = .ok (segment, rest)) : segment.BeginsIn source := by
  obtain ⟨_, _, -, -, definition | block | opened⟩ := readBlock_cases found
  · trivial
  · trivial
  · trivial

/-- A segment that is read begins a named body in the source, if it begins one. -/
theorem read_beginsIn {whitespace : Whitespace} (placed : Token.Placed source (first :: tokens))
    (found : read input readString whitespace first tokens = .ok (segment, rest)) :
    segment.BeginsIn source := by
  cases readBy_of_read found with
  | text => trivial
  | comment => trivial
  | reference _ found =>
    obtain ⟨_, _, _, _, -, -, -, rfl⟩ := readReference_eq_ok found
    trivial
  | test _ found =>
    obtain ⟨_, _, found⟩ := bind_eq_ok found
    exact readElement_beginsIn found
  | helper _ found =>
    obtain ⟨_, _, found⟩ := bind_eq_ok found
    exact readElement_beginsIn found
  | block _ found => exact readBlock_beginsIn found
  | definition _ found => exact readBlock_beginsIn found
  | inclusion _ found =>
    obtain ⟨_, _, _, _, _, _, -, -, -, -, rfl⟩ := readPartial_eq_ok found
    trivial
  | body _ found =>
    obtain ⟨name, last, rfl, -, -, rfl⟩ := readBody_eq_ok found
    exact (placed.isIn List.mem_cons_self).cover (placed.tail.tail.isIn List.mem_cons_self)
  | closing _ found =>
    obtain ⟨_, _, -, -, rfl⟩ := readClosing_eq_ok found
    trivial

/-- The segments of tokens in the source begin named bodies in it, and fail in it. -/
theorem stream_failure (strings : ReadsStrings source readString) (known : input.IsOf source)
    (whitespace : Whitespace) (placed : Token.Placed source tokens) :
    (∀ segment ∈ (stream input readString whitespace tokens).items, segment.BeginsIn source) ∧
      ∀ located ∈ (stream input readString whitespace tokens).failure,
        located.span.IsIn source := by
  fun_induction stream input readString whitespace tokens with
  | case1 => exact ⟨by simp, known.failure⟩
  | case2 first rest fault missing =>
    exact ⟨by simp, by simpa using read_failsIn strings known whitespace placed fault missing⟩
  | case3 first rest segment later found induction =>
    obtain ⟨begins, fails⟩ := induction (placed.tail.suffix (read_suffix found))
    exact ⟨List.forall_mem_cons.mpr ⟨read_beginsIn placed found, begins⟩, fails⟩

end Segment

/-! ### Templates that are put together -/

namespace Assembly

variable {assembly : Assembly} {segment : Segment}

/-- One more segment is refused at its tag. -/
theorem step_failsIn (meets : segment.Meets source) (begins : segment.BeginsIn source) :
    FailsIn source (assembly.step segment) := by
  cases segment with
  | part part => exact .ok _
  | definition name => exact .ok _
  | opening tag => exact .ok _
  | body name span =>
    simp only [step, beginBody]
    split
    · exact .ok _
    · exact .error begins
  | closing key span =>
    obtain ⟨text, shows, _⟩ := meets
    simp only [step, close]
    split
    · split
      · split
        · exact .error shows.isIn
        · exact .ok _
      · split
        · exact .error shows.isIn
        · split <;> exact .ok _
    · exact .error shows.isIn

/-- Segments in the source are refused at their tags. -/
theorem run_failsIn {segments : List Segment} (placed : Segment.Placed source segments)
    (begins : ∀ segment ∈ segments, segment.BeginsIn source) :
    FailsIn source (assembly.run segments) := by
  induction segments generalizing assembly with
  | nil => exact .ok _
  | cons segment rest induction =>
    obtain ⟨here, later⟩ := List.forall_mem_cons.mp begins
    have meets := placed.meets segment List.mem_cons_self
    unfold run
    split
    · rename_i fault missing
      exact .error (step_failsIn meets here fault missing)
    · exact induction
        ⟨(List.forall_mem_cons.mp placed.meets).2, (List.pairwise_cons.mp placed.ordered).2⟩ later

/-- A tag that is not closed is refused where it stands. -/
theorem finish_failsIn (meets : assembly.Meets source []) : FailsIn source assembly.finish := by
  unfold finish
  split
  · rename_i tag last
    have here := meets.opened tag (List.mem_of_getLast? last)
    refine .error ?_
    cases tag with
    | element head params key span main bodies current =>
      obtain ⟨_, _, _, _, _, _, inside⟩ := here
      exact inside
    | block name defines => exact Span.Shows.isIn here
  · exact .ok _

end Assembly

/-! ### Compiled templates -/

/-- A text in the source that is no body has its fault in the source. -/
theorem Body.ofText_failsIn (strings : ReadsStrings source readString) (whitespace : Whitespace)
    {text before after : List Char} (same : source = before ++ text ++ after) :
    FailsIn source
      (Body.ofText readString whitespace source (Text.byteSize before) text) := by
  have placed := (Token.meaningful_placedFrom .text (Text.byteSize before) text same rfl).placed
  let input : Input := ⟨source, (Token.stream .text (Text.byteSize before) text).failure⟩
  have known : input.IsOf source := ⟨rfl, Token.stream_failure same rfl trivial⟩
  obtain ⟨begins, fails⟩ := Segment.stream_failure strings known whitespace placed
  have segments := (@Segment.stream_placed source input _ _ strings.placed whitespace placed).1
  refine (Assembly.run_failsIn segments begins).bind fun assembly together => ?_
  split
  · rename_i fault missing
    exact .error (fails fault missing)
  · exact Assembly.finish_failsIn ((Assembly.start_meets _).run segments together)

/-- Strings without tags are read without faults. -/
theorem Token.plainBody_readsStrings : ReadsStrings source fun string => .ok string.plainBody :=
  ⟨plainBody_readsPlaced, fun _ _ _ _ => .ok _⟩

/-- Strings are read as bodies in place or fail in the source. -/
theorem Token.stringBody_readsStrings : ReadsStrings source (Token.stringBody source) := by
  refine ⟨stringBody_readsPlaced, fun token kind shows spelled => ?_⟩
  obtain ⟨before, after, same, start⟩ := Token.inside_string kind shows spelled
  unfold Token.stringBody
  split
  · rw [start]
    exact (Body.ofText_failsIn plainBody_readsStrings .preserve same).bind fun _ _ => .ok _
  · exact .ok _

/-- A source that is no template has its fault at a place in it. -/
theorem Template.compile_failsIn (whitespace : Whitespace) (source : String) :
    FailsIn source.toList (Template.compile whitespace source) := by
  have whole : source.toList = [] ++ source.toList ++ [] := by simp
  exact (Body.ofText_failsIn Token.stringBody_readsStrings whitespace whole).bind fun _ _ => .ok _

end Dust
