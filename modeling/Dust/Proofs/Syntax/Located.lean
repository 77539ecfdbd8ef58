import Dust.Proofs.Syntax.Pieces
import Dust.Proofs.Syntax.Placed
import Dust.Syntax.Compile

/-!
# Places in compiled templates

What is read from tokens that stand in a source says of itself where it is written: the spans of
paths and tags lie in the source, names are what stands at their spans, and at the span of a helper
or a partial stands its tag. Every reader takes tokens from the front of a list that is placed as a
whole, so a tag ends behind where it begins, and closing it does not come before opening it.
-/

namespace Dust

/-- How the tag of an included template goes on after its mark. -/
def Target.BegunBy (begun : List Char) : Target → Prop
  | .static name => begun = name.toList ∨ begun = ['"']
  | .dynamic _ => begun = ['"']

/-- The tag of a helper stands at a span. -/
def Head.ShowsTag (source : List Char) (span : Span) : Head → Prop
  | .helper name =>
    ∃ text, span.Shows source text ∧ '{' :: '@' :: name.name.toList <+: text ∧ ['}'] <:+ text
  | .test .. => True

/-- The tag of a helper or a partial stands at its span. -/
def Part.ShowsTag (source : List Char) : Part → Prop
  | .element head _ _ _ span => head.ShowsTag source span
  | .inclusion target _ _ span =>
    ∃ text begun, span.Shows source text ∧ target.BegunBy begun ∧
      '{' :: '>' :: begun <+: text ∧ ['/', '}'] <:+ text
  | _ => True

/-- What is written in a source stands at its place. -/
def writtenIn (source : List Char) : Demand where
  span := Span.IsIn source
  name identifier := identifier.span.Shows source identifier.name.toList
  index index := index < Number.indexBound
  keys names := names.Pairwise (· < ·)
  part := Part.ShowsTag source

variable {source : List Char} {input : Input}

/-- The span of a token that stands in the source lies in it. -/
theorem Token.Placed.isIn {tokens : List Token} (placed : Token.Placed source tokens)
    {token : Token} (mem : token ∈ tokens) : token.span.IsIn source :=
  (placed.shown token mem).isIn

/-- What stands after a token is placed as all tokens are. -/
theorem Token.Placed.tail {token : Token} {tokens : List Token}
    (placed : Token.Placed source (token :: tokens)) : Token.Placed source tokens :=
  placed.suffix (List.suffix_cons _ _)

/-- The tokens after a token begin where it has ended. -/
theorem Token.Placed.ahead {token : Token} {tokens : List Token}
    (placed : Token.Placed source (token :: tokens)) : ∀ later ∈ tokens, token.stop ≤ later.start :=
  (List.pairwise_cons.mp placed.ordered).1

/-- A word that stands in the source is the name at its place. -/
theorem Token.Placed.identifier {tokens : List Token} (placed : Token.Placed source tokens)
    {token : Token} (mem : token ∈ tokens) : (writtenIn source).name token.identifier := by
  simpa [writtenIn, Token.identifier, Token.string] using placed.shown token mem

/-! ### Paths and parameters -/

namespace Path

/-- A path whose keys and span are in place stays so with one more key. -/
theorem extend_meets {path : Path} {key : Key} {span : Span}
    (meets : path.Meets (writtenIn source)) (more : key.Meets (writtenIn source))
    (inside : span.IsIn source) : (path.extend key span).Meets (writtenIn source) := by
  obtain ⟨anchor, keys, whole⟩ := path
  obtain ⟨covered, all⟩ := meets
  refine ⟨Span.IsIn.cover covered inside, ?_⟩
  rw [keysMeet_iff] at all ⊢
  simpa [or_imp, forall_and] using ⟨all, more⟩

/-- A position that is read is one. -/
theorem index_meets {token : Token} {key : Key} (read : token.index = .ok key) :
    key.Meets (writtenIn source) := by
  obtain ⟨index, found, rfl⟩ := Token.index_eq_ok read
  unfold Number.readIndex? at found
  obtain ⟨value, _, bounded⟩ := Option.bind_eq_some_iff.mp found
  split at bounded
  · rename_i less
    cases bounded
    exact less
  · cases bounded

/-- Reading paths keeps them in place. -/
theorem readingKeeps_meets (source : List Char) : ReadingKeeps
    (fun outer tokens => Token.Placed source tokens ∧
      ∀ path ∈ outer, path.Meets (writtenIn source))
    (fun paths tokens => Token.Placed source tokens ∧
      ∀ path ∈ paths, path.Meets (writtenIn source)) where
  name := fun ⟨placed, around⟩ => ⟨placed.tail, List.forall_mem_cons.mpr
    ⟨⟨placed.isIn List.mem_cons_self, trivial, trivial⟩, around⟩⟩
  current := fun ⟨placed, around⟩ => ⟨placed.tail, List.forall_mem_cons.mpr
    ⟨⟨placed.isIn List.mem_cons_self, trivial⟩, around⟩⟩
  currentName := fun ⟨placed, around⟩ => by
    have covered := (placed.isIn List.mem_cons_self).cover (placed.tail.isIn List.mem_cons_self)
    exact ⟨placed.tail.tail, List.forall_mem_cons.mpr ⟨⟨covered, trivial, trivial⟩, around⟩⟩
  extend := fun {path _ token _ _ key} ⟨placed, begun⟩ suffix read => by
    obtain ⟨here, around⟩ := List.forall_mem_cons.mp begun
    have meets : key.Meets (writtenIn source) := by
      rcases read with ⟨name, rfl⟩ | ⟨number, read⟩
      · trivial
      · exact index_meets read
    have inside := placed.isIn (suffix.mem List.mem_cons_self)
    exact ⟨placed.suffix ((List.suffix_cons _ _).trans suffix), List.forall_mem_cons.mpr
      ⟨extend_meets here meets inside, around⟩⟩
  enter := fun ⟨placed, begun⟩ => ⟨placed.tail, begun⟩
  close := fun {path enclosing _ _ _} ⟨placed, begun⟩ => by
    obtain ⟨here, begun⟩ := List.forall_mem_cons.mp begun
    obtain ⟨whole, around⟩ := List.forall_mem_cons.mp begun
    have meets : Key.Meets (writtenIn source) (.path path) := here
    exact ⟨placed.tail, List.forall_mem_cons.mpr
      ⟨extend_meets whole meets (placed.isIn List.mem_cons_self), around⟩⟩

/-- A path that is read is in place. -/
theorem read_meets {path : Path} {tokens rest : List Token} (placed : Token.Placed source tokens)
    (read : Path.read input tokens = .ok (path, rest)) : path.Meets (writtenIn source) :=
  ((readingKeeps_meets source).readStart ⟨placed, by simp⟩ read).2 path List.mem_cons_self

end Path

/-- The filters that are read are names in place. -/
theorem Identifier.readFilters_meet {names : List Identifier} {tokens rest : List Token}
    (placed : Token.Placed source tokens)
    (read : readFilters input tokens = .ok (names, rest)) :
    ∀ name ∈ names, (writtenIn source).name name := by
  fun_induction readFilters input tokens generalizing names rest with
  | case1 => cases read; simp
  | case2 => cases read
  | case3 pipe _ name later _ induction =>
    obtain ⟨⟨more, left⟩, found, read⟩ := bind_eq_ok read
    cases read
    exact List.forall_mem_cons.mpr
      ⟨placed.tail.identifier List.mem_cons_self, induction placed.tail.tail found⟩
  | case4 => cases read
  | case5 => cases read; simp

/-- Strings are read as bodies that are in place. -/
def ReadsPlaced (source : List Char) (readString : Token → Except Located Body) : Prop :=
  ∀ token body, token.kind = .string → token.span.Shows source token.text → token.IsSpelled →
    readString token = .ok body → Part.AllMeet (writtenIn source) body

variable {readString : Token → Except Located Body}

/-- A string that is read is in place. -/
theorem ReadsPlaced.first (strings : ReadsPlaced source readString) {token : Token}
    {rest : List Token} {body : Body} (placed : Token.Placed source (token :: rest))
    (kind : token.kind = .string) (read : readString token = .ok body) :
    Part.AllMeet (writtenIn source) body :=
  strings token body kind (placed.shown token List.mem_cons_self)
    (placed.spelled token List.mem_cons_self) read

/-- The value of a parameter that is read is in place. -/
theorem Argument.read_meets (strings : ReadsPlaced source readString) {argument : Argument}
    {tokens rest : List Token} (placed : Token.Placed source tokens)
    (read : Argument.read input readString tokens = .ok (argument, rest)) :
    argument.Meets (writtenIn source) := by
  cases Argument.read_cases read with
  | string kind found =>
    unfold Argument.ofBody
    split
    · trivial
    · exact strings.first placed kind found
  | @number _ _ literal => cases literal <;> trivial
  | path found => exact Path.read_meets placed found

/-- Parameters that are read are in place. -/
theorem Param.readAll_meet (strings : ReadsPlaced source readString) {params : List Param}
    {tokens rest : List Token} (placed : Token.Placed source tokens)
    (read : Param.readAll input readString tokens = .ok (params, rest)) :
    Part.ParamsMeet (writtenIn source) params := by
  fun_induction Param.readAll input readString tokens generalizing params rest with
  | case1 => cases read; trivial
  | case2 => cases read
  | case3 => cases read
  | case4 name later _ _ valueOn equals value after found induction =>
    obtain ⟨⟨more, left⟩, others, read⟩ := bind_eq_ok read
    cases read
    have value_placed := placed.tail.suffix (Input.take_suffix equals)
    obtain ⟨first, second, rfl, suffix⟩ := Argument.read_suffix found
    exact ⟨⟨placed.identifier List.mem_cons_self, Argument.read_meets strings value_placed found⟩,
      induction (value_placed.tail.suffix suffix) others⟩
  | case5 => cases read; trivial

/-! ### Tags -/

/-- The span from one token to a later one begins with the one and ends with the other. -/
theorem Token.Placed.tag {first last : Token} {tokens : List Token}
    (placed : Token.Placed source (first :: tokens)) (mem : last ∈ tokens) :
    ∃ text, (first.span.cover last.span).Shows source text ∧ first.text <+: text ∧
      last.text <:+ text := by
  have le := placed.ahead last mem
  refine (placed.shown first List.mem_cons_self).cover
    (placed.shown last (List.mem_cons_of_mem _ mem)) ?_ ?_
  · exact Nat.le_trans first.start_le_stop le
  · exact Nat.le_trans le last.start_le_stop

/-- The span of a tag begins with its opening and the token after it. -/
theorem Token.Placed.tagOf {first next last : Token} {tokens : List Token}
    (placed : Token.Placed source (first :: next :: tokens)) (opens : first.kind.opensTag = true)
    (mem : last ∈ tokens) :
    ∃ text, (first.span.cover last.span).Shows source text ∧ first.text ++ next.text <+: text ∧
      last.text <:+ text := by
  have meet : next.start = first.stop :=
    placed.adjacent first next ⟨[], tokens, by simp⟩ opens
  have le := placed.tail.ahead last mem
  have begun := (placed.shown first List.mem_cons_self).append
    (placed.tail.shown next List.mem_cons_self) meet
  have first_le := first.start_le_stop
  have next_le := next.start_le_stop
  have last_le := last.start_le_stop
  have whole : (first.span.cover next.span).cover last.span = first.span.cover last.span := by
    simp only [Span.cover, Token.span, Span.mk.injEq]
    omega
  rw [← whole]
  refine begun.cover (placed.tail.tail.shown last mem) ?_ ?_
  · simp only [Span.cover, Token.span]
    omega
  · simp only [Span.cover, Token.span]
    omega

/-- The span of a tag begins with its opening and ends before what is behind the tag. -/
theorem Token.Placed.bounds {first last : Token} {tokens rest : List Token}
    (placed : Token.Placed source (first :: tokens)) (suffix : last :: rest <:+ tokens) :
    first.start ≤ (first.span.cover last.span).start ∧
      ∀ later ∈ rest, (first.span.cover last.span).stop ≤ later.start := by
  have ahead := placed.ahead
  have behind := (placed.tail.suffix suffix).ahead
  have first_le := ahead last (suffix.mem List.mem_cons_self)
  have size := first.start_le_stop
  refine ⟨Nat.le_min.mpr ⟨Nat.le_refl _, Nat.le_trans size first_le⟩, fun later mem => ?_⟩
  exact Nat.max_le.mpr ⟨ahead later (suffix.mem (List.mem_cons_of_mem _ mem)), behind later mem⟩

end Dust
