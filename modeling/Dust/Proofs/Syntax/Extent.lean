import Dust.Proofs.Syntax.Faithful

/-!
# Where readers stay

A reader takes tokens off the front of a list, and what it makes of them lies between the first one
and those that are left. Said of rooms, it stands in every room that spans the tokens that are
taken. A path is read while the paths around it wait, so their spans are followed together. The room
of a tag is its own span.
-/

namespace Dust

variable {source : List Char} {input : Input}

/-! ### Rooms of tokens -/

/-- A room spans the tokens before those that are left. -/
structure Span.Spans (room : Span) (tokens rest : List Token) : Prop where
  /-- It does not begin behind any of the tokens. -/
  start : ∀ token ∈ tokens, room.start ≤ token.start
  /-- It does not end before what ends before the tokens that are left. -/
  stop : ∀ stop, (∀ later ∈ rest, stop ≤ later.start) → stop ≤ room.stop

namespace Span.Spans

variable {room : Span} {tokens rest : List Token}

/-- A room spans fewer tokens if it spans more of them. -/
theorem inner {front back : List Token} (spans : room.Spans tokens rest)
    (front_suffix : front <:+ tokens) (back_suffix : rest <:+ back) : room.Spans front back where
  start token mem := spans.start token (front_suffix.mem mem)
  stop stop before := spans.stop stop fun later mem => before later (back_suffix.mem mem)

/-- A token that is taken is in the room. -/
theorem token {token : Token} {later : List Token} (spans : room.Spans (token :: later) rest)
    (placed : Token.Placed source (token :: later)) (suffix : rest <:+ later) :
    room.Encloses token.span where
  start := spans.start token List.mem_cons_self
  stop := spans.stop token.stop fun next mem => placed.ahead next (suffix.mem mem)

end Span.Spans

namespace Token

variable {first last : Token} {tokens rest : List Token}

/-- The span from one token to a later one begins with the one and ends with the other. -/
theorem Placed.cover_eq (placed : Placed source (first :: tokens)) (mem : last ∈ tokens) :
    first.span.cover last.span = ⟨first.start, last.stop⟩ := by
  have le := placed.ahead last mem
  exact Span.cover_eq (Nat.le_trans first.start_le_stop le) (Nat.le_trans le last.start_le_stop)

/-- A tag spans the tokens between its opening and its end. -/
theorem Placed.tag_spans (placed : Placed source (first :: tokens)) (last : Token)
    (rest : List Token) :
    Span.Spans ⟨first.start, last.stop⟩ tokens (last :: rest) where
  start token mem := Nat.le_trans first.start_le_stop (placed.ahead token mem)
  stop _ before := Nat.le_trans (before last List.mem_cons_self) last.start_le_stop

/-- What opens a tag begins with a brace. -/
theorem IsMarked.brace {token : Token} (marked : token.IsMarked)
    (opens : token.kind.opensTag = true) : ['{'] <+: token.text := by
  unfold IsMarked at marked
  split at marked
  · rename_i kind
    rw [kind] at opens
    cases opens
  · exact ⟨['/'], marked.symm⟩
  · exact marked opens

/-- The span of a tag shows a text in braces. -/
theorem Laid.tag_shows {stop : Nat} (laid : Laid source stop (first :: tokens))
    (opens : first.kind.opensTag = true) (suffix : last :: rest <:+ tokens)
    (closes : last.kind = .tagEnd ∨ last.kind = .selfClose) :
    ∃ text, Span.Shows source ⟨first.start, last.stop⟩ text ∧ ['{'] <+: text ∧ ['}'] <:+ text := by
  have mem := suffix.mem List.mem_cons_self
  obtain ⟨text, shows, front, back⟩ := laid.placed.tag mem
  rw [laid.placed.cover_eq mem] at shows
  exact ⟨text, shows, ((laid.marked first List.mem_cons_self).brace opens).trans front,
    ((laid.placed.tail.spelled last mem).closes closes).trans back⟩

end Token

/-! ### Paths -/

namespace Path

/-- A path that goes on in front of tokens. -/
structure IsBegun (tokens : List Token) (path : Path) : Prop where
  /-- The paths in it stand inside its span. -/
  nested : path.IsNested
  /-- Its span does not end before it begins. -/
  le : path.span.start ≤ path.span.stop
  /-- It has ended before the tokens. -/
  stop : ∀ token ∈ tokens, path.span.stop ≤ token.start

/-- Paths that go on in front of tokens, innermost first. -/
structure AreBegun (start : Nat) (tokens : List Token) (paths : List Path) : Prop where
  /-- Each of them goes on. -/
  begun : ∀ path ∈ paths, path.IsBegun tokens
  /-- None begins before a byte. -/
  start : ∀ path ∈ paths, start ≤ path.span.start
  /-- None begins before one around it. -/
  inward : paths.Pairwise fun inner enclosing => enclosing.span.start ≤ inner.span.start

variable {start : Nat} {tokens rest : List Token} {outer : List Path} {path : Path} {token : Token}

/-- A path that stands where a span is has no paths in it. -/
theorem isNested_nil (anchor : Anchor) (span : Span) : IsNested ⟨anchor, [], span⟩ :=
  trivial

/-- A path of a name has no paths in it. -/
theorem isNested_name (anchor : Anchor) (name : String) (span : Span) :
    IsNested ⟨anchor, [.name name], span⟩ :=
  ⟨trivial, trivial⟩

/-- A position in a path is no path. -/
theorem isNested_index {key : Key} (read : token.index = .ok key) (span : Span) :
    key.IsNested span := by
  obtain ⟨index, -, rfl⟩ := Token.index_eq_ok read
  trivial

/-- A path that goes on in front of tokens goes on in front of the last ones. -/
theorem IsBegun.later (begun : path.IsBegun tokens) (suffix : rest <:+ tokens) :
    path.IsBegun rest :=
  ⟨begun.nested, begun.le, fun token mem => begun.stop token (suffix.mem mem)⟩

namespace AreBegun

/-- Paths that go on in front of tokens go on in front of the last ones. -/
theorem later (begun : AreBegun start tokens outer) (suffix : rest <:+ tokens) :
    AreBegun start rest outer :=
  ⟨fun path mem => (begun.begun path mem).later suffix, begun.start, begun.inward⟩

/-- A path begins behind the beginnings of those that go on. -/
theorem start_le (begun : AreBegun start (token :: rest) outer) :
    ∀ path ∈ outer, path.span.start ≤ token.start := fun path mem =>
  Nat.le_trans (begun.begun path mem).le ((begun.begun path mem).stop token List.mem_cons_self)

/-- A path that begins with a token goes on inside of the others. -/
theorem cons (begun : AreBegun start (token :: tokens) outer) (start_token : start ≤ token.start)
    (nested : path.IsNested) (begins : path.span.start = token.start)
    (le : path.span.start ≤ path.span.stop) (suffix : rest <:+ tokens)
    (stop : ∀ next ∈ rest, path.span.stop ≤ next.start) : AreBegun start rest (path :: outer) where
  begun := List.forall_mem_cons.mpr
    ⟨⟨nested, le, stop⟩, (begun.later (suffix.trans (List.suffix_cons _ _))).begun⟩
  start := List.forall_mem_cons.mpr ⟨begins ▸ start_token, begun.start⟩
  inward := List.pairwise_cons.mpr ⟨fun enclosing mem => begins ▸ begun.start_le enclosing mem,
    begun.inward⟩

/-- The innermost path goes on with a key up to a token. -/
theorem extend {key : Key} (begun : AreBegun start tokens (path :: outer))
    (placed : Token.Placed source tokens) (suffix : token :: rest <:+ tokens)
    (nested : key.IsNested (path.span.cover token.span)) :
    AreBegun start rest (path.extend key token.span :: outer) := by
  obtain ⟨here, around⟩ := List.forall_mem_cons.mp begun.begun
  have after : rest <:+ tokens := (List.suffix_cons _ _).trans suffix
  have before : path.span.stop ≤ token.start := here.stop token (suffix.mem List.mem_cons_self)
  have size := token.start_le_stop
  have le := here.le
  have span : (path.extend key token.span).span = ⟨path.span.start, token.stop⟩ :=
    Span.cover_eq (Nat.le_trans le before) (Nat.le_trans before size)
  have grown : (path.extend key token.span).IsNested := by
    obtain ⟨anchor, keys, place⟩ := path
    have keys_nested := keysNested_iff.mp here.nested
    refine keysNested_iff.mpr fun other mem => ?_
    rcases List.mem_append.mp mem with mem | mem
    · exact (keys_nested other mem).grow ⟨Nat.min_le_left _ _, Nat.le_max_left _ _⟩
    · rw [List.mem_singleton.mp mem]
      exact nested
  refine ⟨List.forall_mem_cons.mpr ⟨⟨grown, ?_, ?_⟩, fun path mem => (around path mem).later after⟩,
    ?_, ?_⟩
  · rw [span]
    exact Nat.le_trans le (Nat.le_trans before size)
  · rw [span]
    exact (placed.suffix suffix).ahead
  · exact List.forall_mem_cons.mpr
      ⟨by rw [span]; exact begun.start path List.mem_cons_self,
        (List.forall_mem_cons.mp begun.start).2⟩
  · obtain ⟨inner, others⟩ := List.pairwise_cons.mp begun.inward
    exact List.pairwise_cons.mpr ⟨by rw [span]; exact inner, others⟩

/-- The innermost path is closed by a token and is a key of the one around it. -/
theorem close {enclosing : Path}
    (begun : AreBegun start (token :: rest) (path :: enclosing :: outer))
    (placed : Token.Placed source (token :: rest)) :
    AreBegun start rest (enclosing.extend (.path path) token.span :: outer) := by
  obtain ⟨here, around⟩ := List.forall_mem_cons.mp begun.begun
  obtain ⟨inner, others⟩ := List.pairwise_cons.mp begun.inward
  have size := token.start_le_stop
  have begins : enclosing.span.start ≤ path.span.start := inner enclosing List.mem_cons_self
  have ends : path.span.stop ≤ token.start := here.stop token List.mem_cons_self
  have outside : AreBegun start (token :: rest) (enclosing :: outer) :=
    ⟨around, (List.forall_mem_cons.mp begun.start).2, others⟩
  refine outside.extend placed List.suffix_rfl ⟨⟨?_, ?_⟩, here.nested⟩
  · exact Nat.le_trans (Nat.min_le_left _ _) begins
  · exact Nat.le_trans ends (Nat.le_trans size (Nat.le_max_right _ _))

end AreBegun

/-- Reading paths keeps them nested, behind a byte that none begins before. -/
theorem readingKeeps_begun (source : List Char) (start : Nat) : ReadingKeeps
    (fun outer tokens => Token.Placed source tokens ∧ AreBegun start tokens outer ∧
      ∀ token ∈ tokens, start ≤ token.start)
    (fun paths tokens => Token.Placed source tokens ∧ AreBegun start tokens paths ∧
      ∀ token ∈ tokens, start ≤ token.start) where
  name := fun {_ token _} ⟨placed, around, behind⟩ => by
    obtain ⟨start_le, behind⟩ := List.forall_mem_cons.mp behind
    exact ⟨placed.tail, around.cons start_le (isNested_name _ _ _) rfl token.start_le_stop
      List.suffix_rfl placed.ahead, behind⟩
  current := fun {_ token _} ⟨placed, around, behind⟩ => by
    obtain ⟨start_le, behind⟩ := List.forall_mem_cons.mp behind
    exact ⟨placed.tail, around.cons start_le (isNested_nil _ _) rfl token.start_le_stop
      List.suffix_rfl placed.ahead, behind⟩
  currentName := fun {_ token next rest} ⟨placed, around, behind⟩ => by
    obtain ⟨start_le, behind⟩ := List.forall_mem_cons.mp behind
    have span : token.span.cover next.span = ⟨token.start, next.stop⟩ :=
      placed.cover_eq List.mem_cons_self
    have size := token.start_le_stop
    have le := placed.ahead next List.mem_cons_self
    have next_size := next.start_le_stop
    rw [span]
    exact ⟨placed.tail.tail, around.cons start_le (isNested_name _ _ _) rfl
      (Nat.le_trans size (Nat.le_trans le next_size)) (List.suffix_cons _ _) placed.tail.ahead,
      (List.forall_mem_cons.mp behind).2⟩
  extend := fun {path _ token _ _ key} ⟨placed, begun, behind⟩ suffix read => by
    have nested : key.IsNested (path.span.cover token.span) := by
      rcases read with ⟨name, rfl⟩ | ⟨number, read⟩
      · trivial
      · exact isNested_index read _
    have after := (List.suffix_cons _ _).trans suffix
    exact ⟨placed.suffix after, begun.extend placed suffix nested,
      fun token mem => behind token (after.mem mem)⟩
  enter := fun ⟨placed, begun, behind⟩ =>
    ⟨placed.tail, begun.later (List.suffix_cons _ _), (List.forall_mem_cons.mp behind).2⟩
  close := fun ⟨placed, begun, behind⟩ =>
    ⟨placed.tail, begun.close placed, (List.forall_mem_cons.mp behind).2⟩

/-- A path that is read is nested, and its span is in every room of its tokens. -/
theorem read_nested {room : Span} (placed : Token.Placed source tokens)
    (spans : room.Spans tokens rest) (read : Path.read input tokens = .ok (path, rest)) :
    path.IsNested ∧ room.Encloses path.span := by
  have none : AreBegun room.start tokens [] := ⟨by simp, by simp, List.Pairwise.nil⟩
  obtain ⟨-, begun, -⟩ :=
    (readingKeeps_begun source room.start).readStart ⟨placed, none, spans.start⟩ read
  have here := begun.begun path List.mem_cons_self
  exact ⟨here.nested, begun.start path List.mem_cons_self, spans.stop _ here.stop⟩

end Path

/-! ### Filters and parameters -/

variable {room : Span} {tokens rest : List Token}

/-- The filters that are read are in every room of their tokens. -/
theorem Identifier.readFilters_within {names : List Identifier}
    (placed : Token.Placed source tokens) (spans : room.Spans tokens rest)
    (read : readFilters input tokens = .ok (names, rest)) :
    ∀ name ∈ names, room.Encloses name.span := by
  fun_induction readFilters input tokens generalizing names rest with
  | case1 => cases read; simp
  | case2 => cases read
  | case3 pipe _ name later _ induction =>
    obtain ⟨⟨more, left⟩, found, read⟩ := bind_eq_ok read
    cases read
    have suffix := Identifier.readFilters_suffix found
    have after := spans.inner (List.suffix_cons _ _) List.suffix_rfl
    exact List.forall_mem_cons.mpr ⟨after.token placed.tail suffix,
      induction placed.tail.tail (after.inner (List.suffix_cons _ _) List.suffix_rfl) found⟩
  | case4 => cases read
  | case5 => cases read; simp

/-- Strings are read as bodies that stand inside of their tokens. -/
def ReadsInside (source : List Char) (readString : Token → Except Located Body) : Prop :=
  ∀ token body, token.kind = .string → token.span.Shows source token.text → token.IsSpelled →
    readString token = .ok body → body.StandsIn source token.span

variable {readString : Token → Except Located Body}

/-- A string that is read stands in every room of its token. -/
theorem ReadsInside.first (strings : ReadsInside source readString) {token : Token}
    {later : List Token} {body : Body} (placed : Token.Placed source (token :: later))
    (spans : room.Spans (token :: later) rest) (suffix : rest <:+ later)
    (kind : token.kind = .string) (read : readString token = .ok body) :
    body.StandsIn source room :=
  (strings token body kind (placed.shown token List.mem_cons_self)
    (placed.spelled token List.mem_cons_self) read).grow (spans.token placed suffix)

/-- The value of a parameter that is read is tidy and stands in every room of its tokens. -/
theorem Argument.read_stands (strings : ReadsInside source readString) {argument : Argument}
    (placed : Token.Placed source tokens) (spans : room.Spans tokens rest)
    (read : Argument.read input readString tokens = .ok (argument, rest)) :
    argument.IsTidy ∧ argument.Meets (standsIn source room) := by
  cases Argument.read_cases read with
  | string kind found =>
    have stands := strings.first placed spans List.suffix_rfl kind found
    unfold Argument.ofBody
    split
    · exact ⟨trivial, trivial⟩
    · rename_i none
      exact ⟨⟨stands.tidy, Body.isMixed_of_text? stands.tidy.settled none⟩, stands.meets⟩
  | @number _ _ literal => cases literal <;> exact ⟨trivial, trivial⟩
  | path found =>
    obtain ⟨nested, within⟩ := Path.read_nested placed spans found
    exact ⟨nested, nested.meets within⟩

/-- Parameters that are read have tidy values and stand in every room of their tokens. -/
theorem Param.readAll_stand (strings : ReadsInside source readString) {params : List Param}
    (placed : Token.Placed source tokens) (spans : room.Spans tokens rest)
    (read : Param.readAll input readString tokens = .ok (params, rest)) :
    (∀ param ∈ params, param.argument.IsTidy) ∧ Part.ParamsMeet (standsIn source room) params := by
  fun_induction Param.readAll input readString tokens generalizing params rest with
  | case1 => cases read; exact ⟨by simp, trivial⟩
  | case2 => cases read
  | case3 => cases read
  | case4 name later _ _ valueOn equals value after found induction =>
    obtain ⟨⟨more, left⟩, others, read⟩ := bind_eq_ok read
    cases read
    have value_suffix := (Input.take_suffix equals).trans (List.suffix_cons name later)
    have rest_suffix := Param.readAll_suffix others
    obtain ⟨first, second, rfl, suffix⟩ := Argument.read_suffix found
    have after_suffix := (suffix.trans (List.suffix_cons first second)).trans value_suffix
    have name_within := spans.token placed
      ((rest_suffix.trans (suffix.trans (List.suffix_cons _ _))).trans (Input.take_suffix equals))
    obtain ⟨tidy, meets⟩ := Argument.read_stands strings (placed.suffix value_suffix)
      (spans.inner value_suffix rest_suffix) found
    obtain ⟨others_tidy, others_meet⟩ := induction (placed.suffix after_suffix)
      (spans.inner after_suffix List.suffix_rfl) others
    exact ⟨List.forall_mem_cons.mpr ⟨tidy, others_tidy⟩, ⟨name_within, meets⟩, others_meet⟩
  | case5 => cases read; exact ⟨by simp, trivial⟩

/-- The name of an included template that is read is tidy and stands in every room of its token. -/
theorem Target.read_stands (strings : ReadsInside source readString) {target : Target}
    (placed : Token.Placed source tokens) (spans : room.Spans tokens rest)
    (read : Target.read input readString tokens = .ok (target, rest)) :
    target.IsTidy ∧ target.Meets (standsIn source room) := by
  obtain ⟨token, rfl, target⟩ := Target.read_cases read
  cases target with
  | name => exact ⟨trivial, trivial⟩
  | text => exact ⟨trivial, trivial⟩
  | mixed kind found none =>
    have stands := strings.first placed spans List.suffix_rfl kind found
    exact ⟨⟨stands.tidy, Body.isMixed_of_text? stands.tidy.settled none⟩, stands.meets⟩

/-- The context of a partial that is read is nested and in every room of its tokens. -/
theorem Input.takeContext_nested {context : Option Path} (placed : Token.Placed source tokens)
    (spans : room.Spans tokens rest) (taken : input.takeContext tokens = .ok (context, rest)) :
    ∀ path ∈ context, path.IsNested ∧ room.Encloses path.span := by
  obtain ⟨-, rfl⟩ | ⟨colon, later, path, rfl, -, found, rfl⟩ := Input.takeContext_cases taken
  · simp
  · simpa using Path.read_nested placed.tail
      (spans.inner (List.suffix_cons _ _) List.suffix_rfl) found

end Dust
