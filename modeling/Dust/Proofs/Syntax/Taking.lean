import Dust.Proofs.Syntax.Compiled
import Dust.Proofs.Syntax.PathSpelling

/-!
# What readers take

A reader takes tokens off the front of a list. Which kinds of tokens it takes tells where it stops:
a path takes names, positions, dots and brackets, and nothing that is read after the opening of a
tag takes the opening of another one. Only the key of a close tag is everything up to the end of
some tag.
-/

namespace Dust

/-- The kinds of tokens that do not open a tag. -/
def TokenKind.staysInside (kind : TokenKind) : Bool :=
  !kind.opensTag

/-- Tokens are taken off the front of a list, all of some kinds. -/
def Takes (kinds : TokenKind → Bool) (tokens rest : List Token) : Prop :=
  ∃ taken, tokens = taken ++ rest ∧ ∀ token ∈ taken, kinds token.kind = true

namespace Takes

variable {kinds others : TokenKind → Bool} {token : Token} {tokens middle rest : List Token}

/-- Nothing is taken. -/
theorem refl : Takes kinds tokens tokens :=
  ⟨[], rfl, by simp⟩

/-- A token is taken before others. -/
theorem cons (kind : kinds token.kind = true) (takes : Takes kinds tokens rest) :
    Takes kinds (token :: tokens) rest := by
  obtain ⟨taken, rfl, all⟩ := takes
  exact ⟨token :: taken, rfl, List.forall_mem_cons.mpr ⟨kind, all⟩⟩

/-- One token is taken. -/
theorem one (kind : kinds token.kind = true) : Takes kinds (token :: rest) rest :=
  refl.cons kind

/-- Some tokens are taken after others. -/
theorem trans (first : Takes kinds tokens middle) (second : Takes kinds middle rest) :
    Takes kinds tokens rest := by
  obtain ⟨taken, rfl, all⟩ := first
  obtain ⟨more, rfl, others⟩ := second
  exact ⟨taken ++ more, by simp, List.forall_mem_append.mpr ⟨all, others⟩⟩

/-- Tokens of some kinds are of all kinds that these are among. -/
theorem mono (takes : Takes kinds tokens rest)
    (among : ∀ kind, kinds kind = true → others kind = true) : Takes others tokens rest := by
  obtain ⟨taken, same, all⟩ := takes
  exact ⟨taken, same, fun token mem => among _ (all token mem)⟩

end Takes

/-- The words directly behind the openings of a kind. -/
def Token.wordsBehind (kind : TokenKind) : List Token → List Token
  | opening :: word :: rest =>
    if opening.kind = kind ∧ word.kind = .identifier then word :: wordsBehind kind (word :: rest)
    else wordsBehind kind (word :: rest)
  | _ => []

/-- The words behind openings are some of the tokens. -/
theorem Token.wordsBehind_sublist (kind : TokenKind) (tokens : List Token) :
    (wordsBehind kind tokens).Sublist tokens.tail := by
  fun_induction wordsBehind kind tokens with
  | case1 opening word rest _ induction => exact induction.cons_cons word
  | case2 opening word rest _ induction => exact induction.cons word
  | case3 => exact List.nil_sublist _

/-- What is no opening of a kind has no word behind it. -/
theorem Token.wordsBehind_cons {kind : TokenKind} {first : Token} {tokens : List Token}
    (other : first.kind ≠ kind) : wordsBehind kind (first :: tokens) = wordsBehind kind tokens := by
  cases tokens with
  | nil => rfl
  | cons next rest => simp [wordsBehind, other]

/-- Tokens that stay inside of a tag have no words behind openings. -/
theorem Takes.wordsBehind {kind : TokenKind} {tokens rest : List Token}
    (takes : Takes TokenKind.staysInside tokens rest) (opens : kind.opensTag = true) :
    Token.wordsBehind kind tokens = Token.wordsBehind kind rest := by
  obtain ⟨taken, rfl, inside⟩ := takes
  induction taken with
  | nil => rfl
  | cons first more induction =>
    obtain ⟨here, behind⟩ := List.forall_mem_cons.mp inside
    have other : first.kind ≠ kind := by
      intro same
      simp [TokenKind.staysInside, same, opens] at here
    rw [List.cons_append, Token.wordsBehind_cons other, induction behind]

variable {input : Input} {readString : Token → Except Located Body} {tokens rest : List Token}

/-- A token of a kind that is taken. -/
theorem Input.take_takes {kinds : TokenKind → Bool} {kind : TokenKind} {token : Token}
    (among : kinds kind = true) (taken : input.take kind tokens = .ok (token, rest)) :
    Takes kinds tokens rest := by
  obtain ⟨rfl, rfl⟩ := Input.take_eq_ok taken
  exact .one among

/-! ### Paths -/

/-- A path that is read takes tokens that paths are made of. -/
theorem Path.read_takes {path : Path} (read : Path.read input tokens = .ok (path, rest)) :
    Takes TokenKind.inPath tokens rest := by
  obtain ⟨first, more, replays⟩ := Path.replays_readStart read
  exact ⟨first :: more, replays.split, replays.inPath⟩

/-- No token that paths are made of opens a tag. -/
theorem TokenKind.staysInside_of_inPath (kind : TokenKind) (inPath : kind.inPath = true) :
    kind.staysInside = true := by
  cases kind <;> first | rfl | cases inPath

/-- A path that is read stays inside of its tag. -/
theorem Path.read_staysInside {path : Path} (read : Path.read input tokens = .ok (path, rest)) :
    Takes TokenKind.staysInside tokens rest :=
  (Path.read_takes read).mono TokenKind.staysInside_of_inPath

/-! ### Filters and parameters -/

/-- Filters that are read stay inside of their tag. -/
theorem Identifier.readFilters_staysInside {names : List Identifier}
    (read : readFilters input tokens = .ok (names, rest)) :
    Takes TokenKind.staysInside tokens rest := by
  fun_induction readFilters input tokens generalizing names rest with
  | case1 => cases read; exact .refl
  | case2 => cases read
  | case3 pipe isPipe name later isName induction =>
    obtain ⟨⟨more, left⟩, found, read⟩ := bind_eq_ok read
    cases read
    exact ((induction found).cons (by rw [isName]; rfl)).cons (by rw [isPipe]; rfl)
  | case4 => cases read
  | case5 => cases read; exact .refl

/-- The value of a parameter that is read stays inside of its tag. -/
theorem Argument.read_staysInside {argument : Argument}
    (read : Argument.read input readString tokens = .ok (argument, rest)) :
    Takes TokenKind.staysInside tokens rest := by
  cases Argument.read_cases read with
  | string kind => exact .one (by rw [kind]; rfl)
  | number kind => exact .one (by rw [kind]; rfl)
  | path found => exact Path.read_staysInside found

/-- Parameters that are read stay inside of their tag. -/
theorem Param.readAll_staysInside {params : List Param}
    (read : Param.readAll input readString tokens = .ok (params, rest)) :
    Takes TokenKind.staysInside tokens rest := by
  fun_induction Param.readAll input readString tokens generalizing params rest with
  | case1 => cases read; exact .refl
  | case2 => cases read
  | case3 => cases read
  | case4 name _ isName _ valueOn equals value later argument induction =>
    obtain ⟨⟨more, left⟩, found, read⟩ := bind_eq_ok read
    cases read
    exact ((Input.take_takes rfl equals).trans ((Argument.read_staysInside argument).trans
      (induction found))).cons (by rw [isName]; rfl)
  | case5 => cases read; exact .refl

/-! ### Tags -/

/-- The end of a tag stays inside of it. -/
theorem Takes.tagEnd {token : Token} (closes : token.kind = .tagEnd ∨ token.kind = .selfClose) :
    Takes TokenKind.staysInside (token :: rest) rest := by
  rcases closes with closes | closes
  · exact .one (by rw [closes]; rfl)
  · exact .one (by rw [closes]; rfl)

/-- The name of a partial that is read stays inside of its tag. -/
theorem Target.read_staysInside {target : Target}
    (read : Target.read input readString tokens = .ok (target, rest)) :
    Takes TokenKind.staysInside tokens rest := by
  obtain ⟨token, rfl, target⟩ := Target.read_cases read
  cases target with
  | name kind => exact .one (by rw [kind]; rfl)
  | text kind => exact .one (by rw [kind]; rfl)
  | mixed kind => exact .one (by rw [kind]; rfl)

/-- The path of the current value of a partial stays inside of its tag. -/
theorem Input.takeContext_staysInside {context : Option Path}
    (taken : input.takeContext tokens = .ok (context, rest)) :
    Takes TokenKind.staysInside tokens rest := by
  obtain ⟨rfl, -⟩ | ⟨colon, later, path, rfl, kind, found, -⟩ := Input.takeContext_cases taken
  · exact .refl
  · exact (Path.read_staysInside found).cons (by rw [kind]; rfl)

namespace Segment

variable {first : Token} {segment : Segment}

/-- A segment that neither opens a tag nor defines an inline partial. -/
def IsFlat : Segment → Prop
  | .opening _ | .definition _ => False
  | _ => True

/-- A segment that is no part with bodies. -/
def IsLeaf : Segment → Prop
  | .part (.element ..) | .part (.block ..) => False
  | _ => True

/-- A reference that is read is flat and stays inside of its tag. -/
theorem readReference_flat
    (read : readReference input first tokens = .ok (segment, rest)) :
    segment.IsFlat ∧ segment.IsLeaf ∧ Takes TokenKind.staysInside tokens rest := by
  obtain ⟨path, _, filters, last, pathRead, filtersRead, ends, rfl⟩ := readReference_eq_ok read
  exact ⟨trivial, trivial, ((Path.read_staysInside pathRead).trans
    (Identifier.readFilters_staysInside filtersRead)).trans (.one (by rw [ends]; rfl))⟩

/-- A partial that is read is flat and stays inside of its tag. -/
theorem readPartial_flat
    (read : readPartial input readString first tokens = .ok (segment, rest)) :
    segment.IsFlat ∧ segment.IsLeaf ∧ Takes TokenKind.staysInside tokens rest := by
  obtain ⟨target, _, context, _, params, last, targetRead, contextRead, paramsRead, closes, rfl⟩ :=
    readPartial_eq_ok read
  exact ⟨trivial, trivial, (((Target.read_staysInside targetRead).trans
    (Input.takeContext_staysInside contextRead)).trans
      (Param.readAll_staysInside paramsRead)).trans (.one (by rw [closes]; rfl))⟩

/-- The tag of a named body that is read is flat and stays inside of itself. -/
theorem readBody_flat (read : readBody input first tokens = .ok (segment, rest)) :
    segment.IsFlat ∧ segment.IsLeaf ∧ Takes TokenKind.staysInside tokens rest := by
  obtain ⟨name, last, rfl, word, ends, rfl⟩ := readBody_eq_ok read
  exact ⟨trivial, trivial, .cons (by rw [word]; rfl) (.one (by rw [ends]; rfl))⟩

/-- A section or helper that is read stays inside of its tag. -/
theorem readElement_staysInside {head : Head} {key : String}
    (read : readElement input readString first head key tokens = .ok (segment, rest)) :
    Takes TokenKind.staysInside tokens rest := by
  obtain ⟨params, last, paramsRead, read⟩ := readElement_cases read
  exact (Param.readAll_staysInside paramsRead).trans (.tagEnd read.closes)

/-- The end of a block or inline partial stays inside of its tag. -/
theorem BlockReadAs.staysInside {name last : Token} {defines : Bool}
    (read : BlockReadAs name last defines segment) :
    Takes TokenKind.staysInside (last :: rest) rest := by
  cases read with
  | definition closes | block closes => exact .tagEnd (.inr closes)
  | opened ends => exact .tagEnd (.inl ends)

/-- What is read is a section, a helper, a block, an inline partial behind its opening, or a flat
segment without bodies, which stays inside of its tag unless it is a close tag. -/
theorem read_cases {whitespace : Whitespace}
    (found : read input readString whitespace first tokens = .ok (segment, rest)) :
    (∃ kind, readSection input readString kind first tokens = .ok (segment, rest)) ∨
      (first.kind = .openHelper ∧ readHelper input readString first tokens = .ok (segment, rest)) ∨
      (∃ defines, (defines = true → first.kind = .openDefinition) ∧
        readBlock input defines tokens = .ok (segment, rest)) ∨
      (segment.IsFlat ∧ segment.IsLeaf ∧
        (first.kind ≠ .openClose → Takes TokenKind.staysInside tokens rest)) := by
  have flat (all : segment.IsFlat ∧ segment.IsLeaf ∧ Takes TokenKind.staysInside tokens rest) :
      segment.IsFlat ∧ segment.IsLeaf ∧
        (first.kind ≠ .openClose → Takes TokenKind.staysInside tokens rest) :=
    ⟨all.1, all.2.1, fun _ => all.2.2⟩
  cases readBy_of_read found with
  | text => exact .inr (.inr (.inr (flat ⟨trivial, trivial, .refl⟩)))
  | comment => exact .inr (.inr (.inr (flat ⟨trivial, trivial, .refl⟩)))
  | reference _ found => exact .inr (.inr (.inr (flat (readReference_flat found))))
  | test _ found => exact .inl ⟨_, found⟩
  | helper opens found => exact .inr (.inl ⟨opens, found⟩)
  | block _ found => exact .inr (.inr (.inl ⟨false, nofun, found⟩))
  | definition opens found => exact .inr (.inr (.inl ⟨true, fun _ => opens, found⟩))
  | inclusion _ found => exact .inr (.inr (.inr (flat (readPartial_flat found))))
  | body _ found => exact .inr (.inr (.inr (flat (readBody_flat found))))
  | closing closes found =>
    obtain ⟨key, last, -, -, rfl⟩ := readClosing_eq_ok found
    exact .inr (.inr (.inr ⟨trivial, trivial, fun other => absurd closes other⟩))

/-- A segment that is read, unless it is a close tag, stays inside of its tag. -/
theorem read_staysInside {whitespace : Whitespace} (other : first.kind ≠ .openClose)
    (found : read input readString whitespace first tokens = .ok (segment, rest)) :
    Takes TokenKind.staysInside tokens rest := by
  rcases read_cases found with ⟨kind, found⟩ | ⟨-, found⟩ | ⟨defines, -, found⟩ | ⟨-, -, takes⟩
  · obtain ⟨⟨path, afterPath⟩, pathRead, found⟩ := bind_eq_ok found
    exact (Path.read_staysInside pathRead).trans (readElement_staysInside found)
  · obtain ⟨⟨name, afterName⟩, nameRead, found⟩ := bind_eq_ok found
    exact (Input.take_takes rfl nameRead).trans (readElement_staysInside found)
  · obtain ⟨name, last, rfl, word, read⟩ := readBlock_cases found
    exact read.staysInside.cons (by rw [word]; rfl)
  · exact takes other

end Segment

end Dust
