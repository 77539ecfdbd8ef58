import Dust.Syntax.ParamReader
import Dust.Syntax.Whitespace

/-!
# Segments

Tags that have bodies are written as an open tag, tags that begin named bodies, and a close tag. A
segment is one of these, or a part that is complete by itself. So the tree of a template is read in
two steps, and the first one needs no memory of what is open.
-/

namespace Dust

/-- A tag that is open, with what is known of its bodies. -/
inductive OpenTag where
  /-- A section or helper. Its bodies are those that are complete: the main one is complete when a
  named one begins, and `current` is the name of the one that goes on. -/
  | element (head : Head) (params : List Param) (key : String) (span : Span)
      (main : Option Body) (bodies : Dict Body) (current : Option String)
  /-- A block or inline partial. -/
  | block (name : Identifier) (defines : Bool)

/-- A piece of a template on the level of tags. -/
inductive Segment where
  /-- A part that is complete. -/
  | part (part : Part)
  /-- An inline partial that holds nothing. -/
  | definition (name : String)
  /-- An open tag. -/
  | opening (tag : OpenTag)
  /-- The beginning of a named body. -/
  | body (name : String) (span : Span)
  /-- A close tag. -/
  | closing (key : String) (span : Span)

/-- The text of a token without some characters at its start and end. -/
def Token.inside (token : Token) (left right : Nat) : List Char :=
  (token.text.drop left).take (token.text.length - left - right)

/-- The character that a name of a special stands for. -/
def specialCharacter? : List Char → Option Char
  | ['n'] => some '\n'
  | ['r'] => some '\r'
  | ['s'] => some ' '
  | ['l', 'b'] => some '{'
  | ['r', 'b'] => some '}'
  | _ => none

/-- Reads the end of a tag, which may close the tag itself. -/
def Input.takeTagEnd (input : Input) : List Token → Except Located (Token × List Token)
  | [] => .error (input.ended (.token .tagEnd))
  | token :: rest =>
    if token.kind = .tagEnd ∨ token.kind = .selfClose then .ok (token, rest)
    else .error (token.insteadOf (.token .tagEnd))

/-- The span of tokens in a row. -/
def Token.spanOf (first : Token) (more : List Token) : Span :=
  more.foldl (fun span token => span.cover token.span) first.span

/-- Reads the key of a close tag, which is everything before the end of the tag. -/
def Input.takeCloseKey (input : Input) (tokens : List Token) :
    Except Located (String × List Token) :=
  match tokens.takeWhile (·.kind ≠ .tagEnd) with
  | [] => .error (input.ended .closeKey)
  | first :: more =>
    .ok (String.ofList ((first.spanOf more).textIn input.source),
      tokens.dropWhile (·.kind ≠ .tagEnd))

/-- The key of a close tag that is taken is what stands at the tokens before the end of the tag. -/
theorem Input.takeCloseKey_eq_ok {input : Input} {tokens rest : List Token} {key : String}
    (taken : input.takeCloseKey tokens = .ok (key, rest)) :
    ∃ first more, tokens = first :: more ++ rest ∧
      key = String.ofList ((first.spanOf more).textIn input.source) := by
  unfold takeCloseKey at taken
  split at taken
  · cases taken
  · rename_i first more cut
    cases taken
    exact ⟨first, more, by rw [← cut, List.takeWhile_append_dropWhile], rfl⟩

/-- Reads the name of a partial, given how strings are read. -/
def Target.read (input : Input) (readString : Token → Except Located Body) :
    List Token → Except Located (Target × List Token)
  | [] => .error (input.ended (.token .partialName))
  | token :: rest =>
    match token.kind with
    | .partialName => .ok (.static token.string, rest)
    | .string => do
      let body ← readString token
      match body.text? with
      | some name => .ok (.static name, rest)
      | none => .ok (.dynamic body, rest)
    | _ => .error (token.insteadOf (.token .partialName))

/-- Reads the path of the current value of a partial, if a colon precedes it. -/
def Input.takeContext (input : Input) : List Token → Except Located (Option Path × List Token)
  | [] => .ok (none, [])
  | token :: rest =>
    if token.kind = .colon then do
      let (path, left) ← Path.read input rest
      .ok (some path, left)
    else .ok (none, token :: rest)

/-- The end of a tag that is taken is one and leaves the tokens behind it. -/
theorem Input.takeTagEnd_eq_ok {input : Input} {tokens rest : List Token} {token : Token}
    (taken : input.takeTagEnd tokens = .ok (token, rest)) :
    tokens = token :: rest ∧ (token.kind = .tagEnd ∨ token.kind = .selfClose) := by
  cases tokens with
  | nil => cases taken
  | cons first later =>
    unfold takeTagEnd at taken
    simp only at taken
    split at taken
    · rename_i closes
      cases taken
      exact ⟨rfl, closes⟩
    · cases taken

/-- What the name of a partial is read as: a name, a text in quotes, or a string with references. -/
inductive Target.ReadAs (readString : Token → Except Located Body) (token : Token) :
    Target → Prop where
  | name (kind : token.kind = .partialName) : ReadAs readString token (.static token.string)
  | text {body : Body} {text : String} (kind : token.kind = .string)
    (read : readString token = .ok body) (isText : body.text? = some text) :
    ReadAs readString token (.static text)
  | mixed {body : Body} (kind : token.kind = .string) (read : readString token = .ok body)
    (noText : body.text? = none) : ReadAs readString token (.dynamic body)

/-- The name of a partial that is read is one token. -/
theorem Target.read_cases {input : Input} {readString : Token → Except Located Body}
    {target : Target} {tokens rest : List Token}
    (read : Target.read input readString tokens = .ok (target, rest)) :
    ∃ token, tokens = token :: rest ∧ ReadAs readString token target := by
  cases tokens with
  | nil => cases read
  | cons token later =>
    refine ⟨token, ?_⟩
    unfold Target.read at read
    simp only at read
    split at read
    · rename_i kind
      cases read
      exact ⟨rfl, .name kind⟩
    · rename_i kind
      obtain ⟨body, found, read⟩ := bind_eq_ok read
      split at read
      · rename_i isText
        cases read
        exact ⟨rfl, .text kind found isText⟩
      · rename_i noText
        cases read
        exact ⟨rfl, .mixed kind found noText⟩
    · cases read

/-- The path of the current value of a partial is behind a colon, or there is none. -/
theorem Input.takeContext_cases {input : Input} {context : Option Path} {tokens rest : List Token}
    (taken : input.takeContext tokens = .ok (context, rest)) :
    (tokens = rest ∧ context = none) ∨
      ∃ colon later path, tokens = colon :: later ∧ colon.kind = .colon ∧
        Path.read input later = .ok (path, rest) ∧ context = some path := by
  cases tokens with
  | nil =>
    cases taken
    exact .inl ⟨rfl, rfl⟩
  | cons first later =>
    unfold takeContext at taken
    simp only at taken
    split at taken
    · rename_i kind
      obtain ⟨⟨path, left⟩, found, taken⟩ := bind_eq_ok taken
      cases taken
      exact .inr ⟨first, later, path, rfl, kind, found, rfl⟩
    · cases taken
      exact .inl ⟨rfl, rfl⟩

namespace Segment

variable (input : Input) (readString : Token → Except Located Body)

/-- Reads a reference after its brace. -/
def readReference (first : Token) (tokens : List Token) :
    Except Located (Segment × List Token) := do
  let (path, tokens) ← Path.read input tokens
  let (filters, tokens) ← Identifier.readFilters input tokens
  let (last, tokens) ← input.take .tagEnd tokens
  .ok (part (.reference path filters (first.span.cover last.span)), tokens)

/-- Reads the parameters and the end of the tag of a section or helper. -/
def readElement (first : Token) (head : Head) (key : String) (tokens : List Token) :
    Except Located (Segment × List Token) := do
  let (params, tokens) ← Param.readAll input readString tokens
  let (last, tokens) ← input.takeTagEnd tokens
  let span := first.span.cover last.span
  if last.kind = .selfClose then .ok (part (.element head params none [] span), tokens)
  else .ok (opening (.element head params key span none [] none), tokens)

/-- Reads a section after its opening. -/
def readSection (kind : SectionKind) (first : Token) (tokens : List Token) :
    Except Located (Segment × List Token) := do
  let (path, tokens) ← Path.read input tokens
  readElement input readString first (.test kind path)
    (String.ofList (path.span.textIn input.source)) tokens

/-- Reads a call of a helper after its opening. -/
def readHelper (first : Token) (tokens : List Token) :
    Except Located (Segment × List Token) := do
  let (name, tokens) ← input.take .identifier tokens
  readElement input readString first (.helper name.identifier) name.string tokens

/-- Reads a block or inline partial after its opening. -/
def readBlock (defines : Bool) (tokens : List Token) :
    Except Located (Segment × List Token) := do
  let (name, tokens) ← input.take .identifier tokens
  let (last, tokens) ← input.takeTagEnd tokens
  if last.kind = .selfClose then
    if defines then .ok (definition name.string, tokens)
    else .ok (part (.block name.identifier none), tokens)
  else .ok (opening (.block name.identifier defines), tokens)

/-- Reads a partial after its opening. -/
def readPartial (first : Token) (tokens : List Token) :
    Except Located (Segment × List Token) := do
  let (target, tokens) ← Target.read input readString tokens
  let (context, tokens) ← input.takeContext tokens
  let (params, tokens) ← Param.readAll input readString tokens
  let (last, tokens) ← input.take .selfClose tokens
  .ok (part (.inclusion target context params (first.span.cover last.span)), tokens)

/-- Reads the tag of a named body after its opening. -/
def readBody (first : Token) (tokens : List Token) : Except Located (Segment × List Token) := do
  let (name, tokens) ← input.take .identifier tokens
  let (last, tokens) ← input.take .tagEnd tokens
  .ok (body name.string (first.span.cover last.span), tokens)

/-- Reads a close tag after its opening. -/
def readClosing (first : Token) (tokens : List Token) :
    Except Located (Segment × List Token) := do
  let (key, tokens) ← input.takeCloseKey tokens
  let (last, tokens) ← input.take .tagEnd tokens
  .ok (closing key (first.span.cover last.span), tokens)

/-- Reads one segment, whose first token is given. -/
def read (whitespace : Whitespace) (first : Token) (tokens : List Token) :
    Except Located (Segment × List Token) :=
  match first.kind with
  | .raw => .ok (part (.text (String.ofList (whitespace.apply first.text))), tokens)
  | .comment => .ok (part (.comment (String.ofList (first.inside 2 2))), tokens)
  | .rawText => .ok (part (.text (String.ofList (first.inside 2 2))), tokens)
  | .special =>
    match specialCharacter? (first.inside 2 1) with
    | some c => .ok (part (.text (String.ofList [c])), tokens)
    | none => .error ⟨.unknownSpecial, first.span⟩
  | .openReference => readReference input first tokens
  | .openSection => readSection input readString .iterate first tokens
  | .openExists => readSection input readString .present first tokens
  | .openNotExists => readSection input readString .absent first tokens
  | .openHelper => readHelper input readString first tokens
  | .openBlock => readBlock input false tokens
  | .openDefinition => readBlock input true tokens
  | .openPartial => readPartial input readString first tokens
  | .openBody => readBody input first tokens
  | .openClose => readClosing input first tokens
  | kind => .error ⟨.unexpected kind, first.span⟩

/-! ### What is read -/

/-- What a section or helper is read as at the end of its tag: it is complete, or opened with its
key. -/
inductive ElementReadAs (first : Token) (head : Head) (key : String) (params : List Param)
    (last : Token) : Segment → Prop where
  | complete (closes : last.kind = .selfClose) :
    ElementReadAs first head key params last
      (part (.element head params none [] (first.span.cover last.span)))
  | opened (ends : last.kind = .tagEnd) :
    ElementReadAs first head key params last
      (opening (.element head params key (first.span.cover last.span) none [] none))

/-- A section or helper is read up to the end of its tag. -/
theorem ElementReadAs.closes {first last : Token} {head : Head} {key : String} {params : List Param}
    {segment : Segment} (read : ElementReadAs first head key params last segment) :
    last.kind = .tagEnd ∨ last.kind = .selfClose := by
  cases read with
  | complete closes => exact .inr closes
  | opened ends => exact .inl ends

/-- What a block or inline partial is read as at the end of its tag: it is complete, or opened with
its name. -/
inductive BlockReadAs (name last : Token) : Bool → Segment → Prop where
  | definition (closes : last.kind = .selfClose) :
    BlockReadAs name last true (definition name.string)
  | block (closes : last.kind = .selfClose) :
    BlockReadAs name last false (part (.block name.identifier none))
  | opened {defines : Bool} (ends : last.kind = .tagEnd) :
    BlockReadAs name last defines (opening (.block name.identifier defines))

section Reading

variable {input readString} {first : Token} {tokens rest : List Token} {segment : Segment}

/-- A reference is a path, its filters and the end of its tag. -/
theorem readReference_eq_ok (found : readReference input first tokens = .ok (segment, rest)) :
    ∃ path afterPath filters last, Path.read input tokens = .ok (path, afterPath) ∧
      Identifier.readFilters input afterPath = .ok (filters, last :: rest) ∧
      last.kind = .tagEnd ∧
      segment = part (.reference path filters (first.span.cover last.span)) := by
  obtain ⟨⟨path, afterPath⟩, pathRead, found⟩ := bind_eq_ok found
  obtain ⟨⟨filters, afterFilters⟩, filtersRead, found⟩ := bind_eq_ok found
  obtain ⟨⟨last, left⟩, lastRead, complete⟩ := bind_eq_ok found
  obtain ⟨rfl, ends⟩ := Input.take_eq_ok lastRead
  cases complete
  exact ⟨path, afterPath, filters, last, pathRead, filtersRead, ends, rfl⟩

/-- The rest of a section or helper is its parameters and the end of its tag. -/
theorem readElement_cases {head : Head} {key : String}
    (found : readElement input readString first head key tokens = .ok (segment, rest)) :
    ∃ params last, Param.readAll input readString tokens = .ok (params, last :: rest) ∧
      ElementReadAs first head key params last segment := by
  obtain ⟨⟨params, afterParams⟩, paramsRead, found⟩ := bind_eq_ok found
  obtain ⟨⟨last, left⟩, lastRead, complete⟩ := bind_eq_ok found
  obtain ⟨rfl, ends⟩ := Input.takeTagEnd_eq_ok lastRead
  simp only at complete
  split at complete
  · rename_i closes
    cases complete
    exact ⟨params, last, paramsRead, .complete closes⟩
  · rename_i goesOn
    cases complete
    exact ⟨params, last, paramsRead, .opened (ends.resolve_right goesOn)⟩

/-- The rest of a block or inline partial is its name and the end of its tag. -/
theorem readBlock_cases {defines : Bool}
    (found : readBlock input defines tokens = .ok (segment, rest)) :
    ∃ name last, tokens = name :: last :: rest ∧ name.kind = .identifier ∧
      BlockReadAs name last defines segment := by
  obtain ⟨⟨name, afterName⟩, nameRead, found⟩ := bind_eq_ok found
  obtain ⟨⟨last, left⟩, lastRead, complete⟩ := bind_eq_ok found
  obtain ⟨rfl, word⟩ := Input.take_eq_ok nameRead
  obtain ⟨rfl, ends⟩ := Input.takeTagEnd_eq_ok lastRead
  simp only at complete
  split at complete
  · rename_i closes
    cases defines with
    | true =>
      cases complete
      exact ⟨name, last, rfl, word, .definition closes⟩
    | false =>
      cases complete
      exact ⟨name, last, rfl, word, .block closes⟩
  · rename_i goesOn
    cases complete
    exact ⟨name, last, rfl, word, .opened (ends.resolve_right goesOn)⟩

/-- A partial is its name, a context, parameters and the end of its tag. -/
theorem readPartial_eq_ok
    (found : readPartial input readString first tokens = .ok (segment, rest)) :
    ∃ target afterTarget context afterContext params last,
      Target.read input readString tokens = .ok (target, afterTarget) ∧
      input.takeContext afterTarget = .ok (context, afterContext) ∧
      Param.readAll input readString afterContext = .ok (params, last :: rest) ∧
      last.kind = .selfClose ∧
      segment = part (.inclusion target context params (first.span.cover last.span)) := by
  obtain ⟨⟨target, afterTarget⟩, targetRead, found⟩ := bind_eq_ok found
  obtain ⟨⟨context, afterContext⟩, contextRead, found⟩ := bind_eq_ok found
  obtain ⟨⟨params, afterParams⟩, paramsRead, found⟩ := bind_eq_ok found
  obtain ⟨⟨last, left⟩, lastRead, complete⟩ := bind_eq_ok found
  obtain ⟨rfl, closes⟩ := Input.take_eq_ok lastRead
  cases complete
  exact ⟨target, afterTarget, context, afterContext, params, last, targetRead, contextRead,
    paramsRead, closes, rfl⟩

/-- The tag of a named body is its name and its end. -/
theorem readBody_eq_ok (found : readBody input first tokens = .ok (segment, rest)) :
    ∃ name last, tokens = name :: last :: rest ∧ name.kind = .identifier ∧
      last.kind = .tagEnd ∧ segment = body name.string (first.span.cover last.span) := by
  obtain ⟨⟨name, afterName⟩, nameRead, found⟩ := bind_eq_ok found
  obtain ⟨⟨last, left⟩, lastRead, complete⟩ := bind_eq_ok found
  obtain ⟨rfl, word⟩ := Input.take_eq_ok nameRead
  obtain ⟨rfl, ends⟩ := Input.take_eq_ok lastRead
  cases complete
  exact ⟨name, last, rfl, word, ends, rfl⟩

/-- A close tag is its key and its end. -/
theorem readClosing_eq_ok (found : readClosing input first tokens = .ok (segment, rest)) :
    ∃ key last, input.takeCloseKey tokens = .ok (key, last :: rest) ∧ last.kind = .tagEnd ∧
      segment = closing key (first.span.cover last.span) := by
  obtain ⟨⟨key, afterKey⟩, keyRead, found⟩ := bind_eq_ok found
  obtain ⟨⟨last, left⟩, lastRead, complete⟩ := bind_eq_ok found
  obtain ⟨rfl, ends⟩ := Input.take_eq_ok lastRead
  cases complete
  exact ⟨key, last, keyRead, ends, rfl⟩

end Reading

/-- The reader that a segment comes from: a text and a comment are complete with their first token,
and the others are read behind their opening. -/
inductive ReadBy (first : Token) (tokens : List Token) : Segment → List Token → Prop where
  | text (content : String) : ReadBy first tokens (.part (.text content)) tokens
  | comment (content : String) : ReadBy first tokens (.part (.comment content)) tokens
  | reference {segment : Segment} {rest : List Token} (opens : first.kind = .openReference)
    (found : readReference input first tokens = .ok (segment, rest)) :
    ReadBy first tokens segment rest
  | test {kind : SectionKind} {segment : Segment} {rest : List Token}
    (opens : first.kind.opensTag = true)
    (found : readSection input readString kind first tokens = .ok (segment, rest)) :
    ReadBy first tokens segment rest
  | helper {segment : Segment} {rest : List Token} (opens : first.kind = .openHelper)
    (found : readHelper input readString first tokens = .ok (segment, rest)) :
    ReadBy first tokens segment rest
  | block {segment : Segment} {rest : List Token} (opens : first.kind = .openBlock)
    (found : readBlock input false tokens = .ok (segment, rest)) : ReadBy first tokens segment rest
  | definition {segment : Segment} {rest : List Token} (opens : first.kind = .openDefinition)
    (found : readBlock input true tokens = .ok (segment, rest)) : ReadBy first tokens segment rest
  | inclusion {segment : Segment} {rest : List Token} (opens : first.kind = .openPartial)
    (found : readPartial input readString first tokens = .ok (segment, rest)) :
    ReadBy first tokens segment rest
  | body {segment : Segment} {rest : List Token} (opens : first.kind = .openBody)
    (found : readBody input first tokens = .ok (segment, rest)) :
    ReadBy first tokens segment rest
  | closing {segment : Segment} {rest : List Token} (opens : first.kind = .openClose)
    (found : readClosing input first tokens = .ok (segment, rest)) :
    ReadBy first tokens segment rest

variable {input readString}

/-- A segment that is read comes from the reader of its first token. -/
theorem readBy_of_read {whitespace : Whitespace} {first : Token} {tokens rest : List Token}
    {segment : Segment}
    (found : read input readString whitespace first tokens = .ok (segment, rest)) :
    ReadBy input readString first tokens segment rest := by
  have test {kind : SectionKind} {opening : TokenKind} (same : first.kind = opening)
      (opens : opening.opensTag = true)
      (found : readSection input readString kind first tokens = .ok (segment, rest)) :
      ReadBy input readString first tokens segment rest :=
    .test (same ▸ opens) found
  unfold read at found
  split at found
  · cases found; exact .text _
  · cases found; exact .comment _
  · cases found; exact .text _
  · split at found
    · cases found; exact .text _
    · cases found
  · exact .reference (by assumption) found
  · exact test (by assumption) rfl found
  · exact test (by assumption) rfl found
  · exact test (by assumption) rfl found
  · exact .helper (by assumption) found
  · exact .block (by assumption) found
  · exact .definition (by assumption) found
  · exact .inclusion (by assumption) found
  · exact .body (by assumption) found
  · exact .closing (by assumption) found
  · cases found

/-- The key of a close tag that is taken leaves the last tokens. -/
theorem takeCloseKey_suffix {tokens rest : List Token} {key : String}
    (taken : input.takeCloseKey tokens = .ok (key, rest)) : rest <:+ tokens := by
  obtain ⟨first, more, rfl, -⟩ := Input.takeCloseKey_eq_ok taken
  exact List.suffix_append _ _

/-- The target of a partial that is read leaves the last tokens. -/
theorem readTarget_suffix {tokens rest : List Token} {target : Target}
    (taken : Target.read input readString tokens = .ok (target, rest)) : rest <:+ tokens := by
  obtain ⟨token, rfl, _⟩ := Target.read_cases taken
  exact List.suffix_cons _ _

/-- The context of a partial that is taken leaves the last tokens. -/
theorem takeContext_suffix {tokens rest : List Token} {context : Option Path}
    (taken : input.takeContext tokens = .ok (context, rest)) : rest <:+ tokens := by
  obtain ⟨rfl, rfl⟩ | ⟨colon, later, path, rfl, _, found, rfl⟩ := Input.takeContext_cases taken
  · exact List.suffix_rfl
  · obtain ⟨_, _, rfl, suffix⟩ := Path.readStart_suffix found
    exact (suffix.trans (List.suffix_cons _ _)).trans (List.suffix_cons _ _)

/-- A path that is read leaves the last tokens. -/
theorem readPath_suffix {tokens rest : List Token} {path : Path}
    (read : Path.read input tokens = .ok (path, rest)) : rest <:+ tokens := by
  obtain ⟨_, _, rfl, suffix⟩ := Path.readStart_suffix read
  exact suffix.trans (List.suffix_cons _ _)

/-- The opening of a section or helper that is read leaves the last tokens. -/
theorem readElement_suffix {first : Token} {head : Head} {key : String}
    {tokens rest : List Token} {segment : Segment}
    (found : readElement input readString first head key tokens = .ok (segment, rest)) :
    rest <:+ tokens := by
  obtain ⟨params, last, paramsRead, -⟩ := readElement_cases found
  exact (List.suffix_cons _ _).trans (Param.readAll_suffix paramsRead)

/-- The opening of a block that is read leaves the last tokens. -/
theorem readBlock_suffix {defines : Bool} {tokens rest : List Token} {segment : Segment}
    (found : readBlock input defines tokens = .ok (segment, rest)) : rest <:+ tokens := by
  obtain ⟨name, last, rfl, -, -⟩ := readBlock_cases found
  exact (List.suffix_cons _ _).trans (List.suffix_cons _ _)

/-- A partial that is read leaves the last tokens. -/
theorem readPartial_suffix {first : Token} {tokens rest : List Token} {segment : Segment}
    (found : readPartial input readString first tokens = .ok (segment, rest)) :
    rest <:+ tokens := by
  obtain ⟨target, _, context, _, params, last, targetRead, contextRead, paramsRead, -, -⟩ :=
    readPartial_eq_ok found
  exact (((List.suffix_cons _ _).trans (Param.readAll_suffix paramsRead)).trans
    (takeContext_suffix contextRead)).trans (readTarget_suffix targetRead)

/-- A segment that is read leaves the last of the tokens after its first one. -/
theorem read_suffix {whitespace : Whitespace} {first : Token} {tokens rest : List Token}
    {segment : Segment}
    (found : read input readString whitespace first tokens = .ok (segment, rest)) :
    rest <:+ tokens := by
  cases readBy_of_read found with
  | text => exact List.suffix_rfl
  | comment => exact List.suffix_rfl
  | reference _ found =>
    obtain ⟨path, _, filters, last, pathRead, filtersRead, -, -⟩ := readReference_eq_ok found
    exact ((List.suffix_cons _ _).trans (Identifier.readFilters_suffix filtersRead)).trans
      (readPath_suffix pathRead)
  | test _ found =>
    obtain ⟨⟨_, _⟩, path, found⟩ := bind_eq_ok found
    exact (readElement_suffix found).trans (readPath_suffix path)
  | helper _ found =>
    obtain ⟨⟨_, _⟩, name, found⟩ := bind_eq_ok found
    exact (readElement_suffix found).trans (Input.take_suffix name)
  | block _ found => exact readBlock_suffix found
  | definition _ found => exact readBlock_suffix found
  | inclusion _ found => exact readPartial_suffix found
  | body _ found =>
    obtain ⟨name, last, rfl, -, -, -⟩ := readBody_eq_ok found
    exact (List.suffix_cons _ _).trans (List.suffix_cons _ _)
  | closing _ found =>
    obtain ⟨key, last, keyRead, -, -⟩ := readClosing_eq_ok found
    exact (List.suffix_cons _ _).trans (takeCloseKey_suffix keyRead)

variable (input readString)

set_option linter.unusedVariables false in
/-- The segments of a list of tokens. -/
def stream (whitespace : Whitespace) (tokens : List Token) : Stream Segment :=
  match tokens with
  | [] => ⟨[], input.failure⟩
  | first :: rest =>
    match found : read input readString whitespace first rest with
    | .error fault => ⟨[], some fault⟩
    | .ok (segment, later) => (stream whitespace later).cons segment
termination_by tokens.length
decreasing_by
  have shorter := (read_suffix found).length_le
  simp only [List.length_cons]
  omega

end Segment

end Dust
