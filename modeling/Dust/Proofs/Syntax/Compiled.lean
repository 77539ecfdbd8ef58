import Dust.Proofs.Syntax.Located

/-!
# What a compiled template says of its source

Segments are in place as the tokens they are read from, and a close tag does not stand before the
tag that it closes. So whatever is put together from them is in place, and with it every template
that is compiled, also in the strings of its tags.
-/

namespace Dust

variable {source : List Char} {input : Input} {readString : Token → Except Located Body}

/-! ### Segments -/

/-- What is known of an open tag is in place. -/
def OpenTag.Meets (source : List Char) : OpenTag → Prop
  | .element head params _ span main bodies _ =>
    (Part.element head params main bodies span).Meets (writtenIn source)
  | .block name _ => (writtenIn source).name name

/-- A segment is in place. -/
def Segment.Meets (source : List Char) : Segment → Prop
  | .part piece => piece.Meets (writtenIn source)
  | .opening tag => tag.Meets source
  | .closing _ span => ∃ text, span.Shows source text ∧ ['}'] <:+ text
  | _ => True

/-- The span that the part of an open or a close tag is going to cover. -/
def Segment.span? : Segment → Option Span
  | .opening (.element _ _ _ span ..) => some span
  | .closing _ span => some span
  | _ => none

/-- A segment is in place between the token it begins with and the tokens behind it. -/
structure Segment.ReadAt (source : List Char) (first : Token) (rest : List Token)
    (segment : Segment) : Prop where
  /-- It is in place. -/
  meets : segment.Meets source
  /-- It does not begin before its first token. -/
  starts : ∀ span ∈ segment.span?, first.start ≤ span.start
  /-- It ends before the tokens behind it. -/
  stops : ∀ span ∈ segment.span?, ∀ later ∈ rest, span.stop ≤ later.start

/-- The end of a tag ends with a brace. -/
theorem Token.IsSpelled.closes {token : Token} (spelled : token.IsSpelled)
    (kind : token.kind = .tagEnd ∨ token.kind = .selfClose) : ['}'] <:+ token.text := by
  rcases kind with kind | kind
  · simp only [IsSpelled, kind] at spelled
    rw [spelled]
  · simp only [IsSpelled, kind] at spelled
    rw [spelled]
    exact ⟨['/'], rfl⟩

namespace Segment

variable {first : Token} {tokens rest : List Token} {segment : Segment}

/-- A segment that covers nothing is in place if what it holds is. -/
theorem ReadAt.of_meets (meets : segment.Meets source) (none : segment.span? = none) :
    ReadAt source first rest segment :=
  ⟨meets, by simp [none], by simp [none]⟩

/-- A reference that is read is in place. -/
theorem readReference_at (placed : Token.Placed source (first :: tokens))
    (read : readReference input first tokens = .ok (segment, rest)) :
    ReadAt source first rest segment := by
  obtain ⟨path, _, filters, last, pathRead, filtersRead, -, rfl⟩ := readReference_eq_ok read
  have path_suffix := readPath_suffix pathRead
  have filters_suffix := (Identifier.readFilters_suffix filtersRead).trans path_suffix
  have last_inside := placed.tail.isIn (filters_suffix.mem List.mem_cons_self)
  exact .of_meets ⟨trivial, Path.read_meets placed.tail pathRead,
    Identifier.readFilters_meet (placed.tail.suffix path_suffix) filtersRead,
    (placed.isIn List.mem_cons_self).cover last_inside⟩ rfl

/-- The rest of a section or helper that is read is in place. Its tag stands at its span if the
tag of a helper begins with its name. -/
theorem readElement_at (strings : ReadsPlaced source readString) {before : List Token} {head : Head}
    {key : String} (placed : Token.Placed source (first :: before)) (suffix : tokens <:+ before)
    (head_meets : head.Meets (writtenIn source))
    (tag : ∀ last ∈ tokens, ['}'] <:+ last.text →
      head.ShowsTag source (first.span.cover last.span))
    (read : readElement input readString first head key tokens = .ok (segment, rest)) :
    ReadAt source first rest segment := by
  obtain ⟨params, last, paramsRead, read⟩ := readElement_cases read
  have last_suffix := Param.readAll_suffix paramsRead
  have last_mem := last_suffix.mem List.mem_cons_self
  have last_placed := placed.tail.suffix (last_suffix.trans suffix)
  have shows := tag last last_mem
    ((last_placed.spelled last List.mem_cons_self).closes read.closes)
  have inside : (first.span.cover last.span).IsIn source :=
    (placed.isIn List.mem_cons_self).cover (last_placed.isIn List.mem_cons_self)
  have params_meet := Param.readAll_meet strings (placed.tail.suffix suffix) paramsRead
  have bounds := placed.bounds (last_suffix.trans suffix)
  have meets : (Part.element head params none [] (first.span.cover last.span)).Meets
      (writtenIn source) :=
    ⟨shows, head_meets, params_meet, trivial, List.Pairwise.nil, trivial, inside⟩
  cases read with
  | complete => exact .of_meets meets rfl
  | opened => exact ⟨meets, by simpa [span?] using bounds.1, by simpa [span?] using bounds.2⟩

/-- A section that is read is in place. -/
theorem readSection_at (strings : ReadsPlaced source readString) {kind : SectionKind}
    (placed : Token.Placed source (first :: tokens))
    (read : readSection input readString kind first tokens = .ok (segment, rest)) :
    ReadAt source first rest segment := by
  obtain ⟨⟨path, afterPath⟩, pathRead, read⟩ := bind_eq_ok read
  have head : Head.Meets (writtenIn source) (.test kind path) :=
    Path.read_meets placed.tail pathRead
  exact readElement_at strings placed (readPath_suffix pathRead) head
    (fun _ _ _ => trivial) read

/-- A call of a helper that is read is in place. -/
theorem readHelper_at (strings : ReadsPlaced source readString) (kind : first.kind = .openHelper)
    (placed : Token.Placed source (first :: tokens))
    (read : readHelper input readString first tokens = .ok (segment, rest)) :
    ReadAt source first rest segment := by
  obtain ⟨⟨name, afterName⟩, nameRead, complete⟩ := bind_eq_ok read
  obtain ⟨rfl, _⟩ := Input.take_eq_ok nameRead
  have spelled := placed.spelled first List.mem_cons_self
  simp only [Token.IsSpelled, kind] at spelled
  have head : Head.Meets (writtenIn source) (.helper name.identifier) :=
    placed.tail.identifier List.mem_cons_self
  refine readElement_at strings placed (List.suffix_cons _ _) head
    (fun last mem closes => ?_) complete
  obtain ⟨text, shows, front, back⟩ := placed.tagOf (by rw [kind]; rfl) mem
  refine ⟨text, shows, ?_, closes.trans back⟩
  simpa [spelled, Token.identifier, Token.string] using front

/-- A block or inline partial that is read is in place. -/
theorem readBlock_at {defines : Bool} (placed : Token.Placed source (first :: tokens))
    (read : readBlock input defines tokens = .ok (segment, rest)) :
    ReadAt source first rest segment := by
  obtain ⟨name, last, rfl, -, read⟩ := readBlock_cases read
  have named := placed.tail.identifier List.mem_cons_self
  cases read with
  | definition => exact .of_meets trivial rfl
  | block => exact .of_meets ⟨trivial, named, trivial⟩ rfl
  | opened => exact .of_meets named rfl

/-- The name of an included template that is read is in place, and the tag goes on with it. -/
theorem Target.read_meets (strings : ReadsPlaced source readString) {target : Target}
    (placed : Token.Placed source tokens)
    (read : Target.read input readString tokens = .ok (target, rest)) :
    ∃ next, tokens = next :: rest ∧ target.Meets (writtenIn source) ∧
      ∃ begun, target.BegunBy begun ∧ begun <+: next.text := by
  obtain ⟨next, rfl, target⟩ := Target.read_cases read
  have quoted (kind : next.kind = .string) : ['"'] <+: next.text := by
    have spelled := placed.spelled next List.mem_cons_self
    simp only [Token.IsSpelled, kind] at spelled
    obtain ⟨inside, spelled⟩ := spelled
    exact ⟨inside, spelled.symm⟩
  cases target with
  | name =>
    exact ⟨next, rfl, trivial, next.text, .inl (by simp [Token.string]), List.prefix_rfl⟩
  | text kind => exact ⟨next, rfl, trivial, ['"'], .inr rfl, quoted kind⟩
  | mixed kind found =>
    exact ⟨next, rfl, strings.first placed kind found, ['"'], rfl, quoted kind⟩

/-- The context of a partial that is read is in place. -/
theorem takeContext_meets {context : Option Path} (placed : Token.Placed source tokens)
    (taken : input.takeContext tokens = .ok (context, rest)) :
    ∀ path ∈ context, path.Meets (writtenIn source) := by
  obtain ⟨-, rfl⟩ | ⟨colon, later, path, rfl, -, found, rfl⟩ := Input.takeContext_cases taken
  · simp
  · simpa using Path.read_meets placed.tail found

/-- A partial that is read is in place. -/
theorem readPartial_at (strings : ReadsPlaced source readString) (kind : first.kind = .openPartial)
    (placed : Token.Placed source (first :: tokens))
    (read : readPartial input readString first tokens = .ok (segment, rest)) :
    ReadAt source first rest segment := by
  obtain ⟨target, _, context, _, params, last, targetRead, contextRead, paramsRead, closes, rfl⟩ :=
    readPartial_eq_ok read
  obtain ⟨next, rfl, target_meets, begun, begins, front⟩ :=
    Target.read_meets strings placed.tail targetRead
  have context_placed := placed.tail.tail.suffix (takeContext_suffix contextRead)
  have suffix := (Param.readAll_suffix paramsRead).trans (takeContext_suffix contextRead)
  have last_mem := suffix.mem List.mem_cons_self
  have opening := placed.spelled first List.mem_cons_self
  have closing := placed.tail.tail.spelled last last_mem
  simp only [Token.IsSpelled, kind] at opening
  simp only [Token.IsSpelled, closes] at closing
  obtain ⟨text, shows, opened, closed⟩ := placed.tagOf (by rw [kind]; rfl) last_mem
  refine .of_meets ⟨?_, target_meets, takeContext_meets placed.tail.tail contextRead,
    Param.readAll_meet strings context_placed paramsRead, shows.isIn⟩ rfl
  refine ⟨text, begun, shows, begins, ?_, by rwa [closing] at closed⟩
  rw [opening] at opened
  exact (List.prefix_append_right_inj ['{', '>'] |>.mpr front).trans opened

/-- A close tag that is read is in place. -/
theorem readClosing_at (placed : Token.Placed source (first :: tokens))
    (read : readClosing input first tokens = .ok (segment, rest)) :
    ReadAt source first rest segment := by
  obtain ⟨key, last, keyRead, closes, rfl⟩ := readClosing_eq_ok read
  have suffix := takeCloseKey_suffix keyRead
  have closing := placed.tail.spelled last (suffix.mem List.mem_cons_self)
  simp only [Token.IsSpelled, closes] at closing
  obtain ⟨text, shows, _, closed⟩ := placed.tag (suffix.mem List.mem_cons_self)
  have bounds := placed.bounds suffix
  exact ⟨⟨text, shows, by rwa [closing] at closed⟩, by simpa [span?] using bounds.1,
    by simpa [span?] using bounds.2⟩

/-- A segment that is read is in place. -/
theorem read_at (strings : ReadsPlaced source readString) {whitespace : Whitespace}
    (placed : Token.Placed source (first :: tokens))
    (found : read input readString whitespace first tokens = .ok (segment, rest)) :
    ReadAt source first rest segment := by
  cases readBy_of_read found with
  | text => exact .of_meets trivial rfl
  | comment => exact .of_meets trivial rfl
  | reference _ found => exact readReference_at placed found
  | test _ found => exact readSection_at strings placed found
  | helper opens found => exact readHelper_at strings opens placed found
  | block _ found => exact readBlock_at placed found
  | definition _ found => exact readBlock_at placed found
  | inclusion opens found => exact readPartial_at strings opens placed found
  | body _ found =>
    obtain ⟨name, last, -, -, -, rfl⟩ := readBody_eq_ok found
    exact .of_meets trivial rfl
  | closing _ found => exact readClosing_at placed found

/-- Segments are in place, and none covers what stands before one that is put together with it. -/
structure Placed (source : List Char) (segments : List Segment) : Prop where
  /-- Each of them is in place. -/
  meets : ∀ segment ∈ segments, segment.Meets source
  /-- Their spans stand one behind the other. -/
  ordered : segments.Pairwise fun segment later =>
    ∀ span ∈ segment.span?, ∀ next ∈ later.span?, span.stop ≤ next.start

/-- The segments of tokens are in place, and do not begin before the tokens. -/
theorem stream_placed (strings : ReadsPlaced source readString) (whitespace : Whitespace)
    (placed : Token.Placed source tokens) :
    Placed source (stream input readString whitespace tokens).items ∧
      ∀ segment ∈ (stream input readString whitespace tokens).items, ∀ span ∈ segment.span?,
        ∃ token ∈ tokens, token.start ≤ span.start := by
  fun_induction stream input readString whitespace tokens with
  | case1 => exact ⟨⟨by simp, by simp⟩, by simp⟩
  | case2 => exact ⟨⟨by simp, by simp⟩, by simp⟩
  | case3 first rest segment later found induction =>
    have suffix := read_suffix found
    have here := read_at strings placed found
    obtain ⟨others, begins⟩ := induction (placed.tail.suffix suffix)
    refine ⟨⟨List.forall_mem_cons.mpr ⟨here.meets, others.meets⟩,
      List.pairwise_cons.mpr ⟨?_, others.ordered⟩⟩, List.forall_mem_cons.mpr ⟨?_, ?_⟩⟩
    · intro next mem span covered other follows
      obtain ⟨token, mem, le⟩ := begins next mem other follows
      exact Nat.le_trans (here.stops span covered token mem) le
    · exact fun span covered => ⟨first, List.mem_cons_self, here.starts span covered⟩
    · intro next mem span covered
      obtain ⟨token, mem, le⟩ := begins next mem span covered
      exact ⟨token, List.mem_cons_of_mem _ (suffix.mem mem), le⟩

end Segment

/-! ### Bodies -/

namespace Body

/-- A body that meets a demand meets it with one more part that does, if texts always do. -/
theorem push_meets {demand : Demand} {body : Body} {part : Part}
    (texts : ∀ content, demand.part (.text content)) (meets : Part.AllMeet demand body)
    (more : part.Meets demand) : Part.AllMeet demand (body.push part) := by
  have texts (content : String) : (Part.text content).Meets demand := texts content
  rw [Part.allMeet_iff] at meets ⊢
  unfold push
  split
  · split
    · exact meets
    · split
      · rintro part mem
        rcases List.mem_append.mp mem with mem | mem
        · exact meets part (List.mem_of_mem_dropLast mem)
        · rw [List.mem_singleton.mp mem]
          exact texts _
      · simpa [or_imp, forall_and] using ⟨meets, texts _⟩
  · simpa [or_imp, forall_and] using ⟨meets, more⟩

end Body

/-! ### Templates that are put together -/

/-- What has been put together is in place, and so is what is going to be added to it. -/
structure Assembly.Meets (source : List Char) (segments : List Segment) (assembly : Assembly) :
    Prop where
  /-- The open tags are in place. -/
  opened : ∀ tag ∈ assembly.opened, tag.Meets source
  /-- They stand before the segments that are left. -/
  ahead : ∀ tag ∈ assembly.opened, ∀ span ∈ (Segment.opening tag).span?, ∀ segment ∈ segments,
    ∀ next ∈ segment.span?, span.stop ≤ next.start
  /-- The bodies that are being collected are in place. -/
  scopes : ∀ body ∈ assembly.scopes, Part.AllMeet (writtenIn source) body
  /-- The names of the inline partials are in order. -/
  sorted : assembly.blocks.Sorted
  /-- The inline partials are in place. -/
  blocks : Part.BodiesMeet (writtenIn source) assembly.blocks

namespace Assembly

variable {assembly next : Assembly} {segment : Segment} {rest : List Segment}

/-- With one more part everything stays in place. -/
theorem Meets.add (meets : assembly.Meets source rest) {part : Part}
    (more : part.Meets (writtenIn source)) : (assembly.add part).Meets source rest := by
  unfold Assembly.add
  split
  · exact meets
  · rename_i scope outer same
    have scopes := meets.scopes
    rw [same, List.forall_mem_cons] at scopes
    exact ⟨meets.opened, meets.ahead,
      List.forall_mem_cons.mpr ⟨Body.push_meets (fun _ => trivial) scopes.1 more, scopes.2⟩,
      meets.sorted, meets.blocks⟩

/-- Named bodies that meet a demand meet it with one more that does. -/
theorem bodiesMeet_insert {demand : Demand} {bodies : Dict Body} {body : Body} (name : String)
    (meets : Part.BodiesMeet demand bodies)
    (more : Part.AllMeet demand body) :
    Part.BodiesMeet demand (bodies.insert name body) := by
  rw [Part.bodiesMeet_iff] at meets ⊢
  intro entry mem
  rcases Dict.mem_insert mem with rfl | mem
  · exact more
  · exact meets entry mem

/-- With one more inline partial everything stays in place. -/
theorem Meets.define (meets : assembly.Meets source rest) (name : String) {body : Body}
    (more : Part.AllMeet (writtenIn source) body) :
    (assembly.define name body).Meets source rest :=
  ⟨meets.opened, meets.ahead, meets.scopes, meets.sorted.insert name body,
    bodiesMeet_insert name meets.blocks more⟩

/-- A tag that is closed stands from where it is opened to where it is closed. -/
theorem showsTag_cover {head : Head} {span place : Span} (shows : head.ShowsTag source span)
    (closes : ∃ text, place.Shows source text ∧ ['}'] <:+ text) (ahead : span.stop ≤ place.start) :
    head.ShowsTag source (span.cover place) := by
  cases head with
  | test kind key => trivial
  | helper name =>
    obtain ⟨text, opened, front, _⟩ := shows
    obtain ⟨last, closed, back⟩ := closes
    have opened_le := opened.isIn.le
    have closed_le := closed.isIn.le
    obtain ⟨whole, covers, begins, ends⟩ := opened.cover closed (by omega) (by omega)
    exact ⟨whole, covers, front.trans begins, back.trans ends⟩

section Bodies

variable {head : Head} {params : List Param} {main : Option Body} {bodies : Dict Body} {body : Body}
  {span : Span}

/-- A section or helper stays in place with another main body that is in place. -/
theorem element_withMain
    (meets : (Part.element head params main bodies span).Meets (writtenIn source))
    (complete : Part.AllMeet (writtenIn source) body) :
    (Part.element head params (some body) bodies span).Meets (writtenIn source) := by
  obtain ⟨shows, head_meets, params_meet, -, sorted, named, inside⟩ := meets
  exact ⟨shows, head_meets, params_meet, complete, sorted, named, inside⟩

/-- A section or helper stays in place with one more named body that is in place. -/
theorem element_withBody
    (meets : (Part.element head params main bodies span).Meets (writtenIn source))
    (name : String) (complete : Part.AllMeet (writtenIn source) body) :
    (Part.element head params main (bodies.insert name body) span).Meets (writtenIn source) := by
  obtain ⟨shows, head_meets, params_meet, main_meets, sorted, named, inside⟩ := meets
  exact ⟨shows, head_meets, params_meet, main_meets, Dict.Sorted.insert sorted name body,
    bodiesMeet_insert name named complete, inside⟩

/-- A section or helper stays in place with an empty main body where it has none. -/
theorem element_withDefault
    (meets : (Part.element head params main bodies span).Meets (writtenIn source)) :
    (Part.element head params (some (main.getD [])) bodies span).Meets (writtenIn source) := by
  cases main with
  | none => exact element_withMain meets trivial
  | some main => exact meets

/-- A section or helper stays in place up to where it is closed. -/
theorem element_cover {place : Span}
    (meets : (Part.element head params main bodies span).Meets (writtenIn source))
    (closes : ∃ text, place.Shows source text ∧ ['}'] <:+ text) (ahead : span.stop ≤ place.start) :
    (Part.element head params main bodies (span.cover place)).Meets (writtenIn source) := by
  obtain ⟨shows, head_meets, params_meet, main_meets, sorted, named, inside⟩ := meets
  have within : (span.cover place).IsIn source := by
    obtain ⟨text, place_shows, _⟩ := closes
    exact inside.cover place_shows.isIn
  exact ⟨showsTag_cover shows closes ahead, head_meets, params_meet, main_meets, sorted, named,
    within⟩

end Bodies

/-- The innermost tag and body are in place, and so is what is around them. -/
theorem Meets.around {outer : Assembly} {tag : OpenTag} {body : Body}
    (meets : Meets source rest ⟨tag :: outer.opened, body :: outer.scopes, outer.blocks⟩) :
    tag.Meets source ∧ Part.AllMeet (writtenIn source) body ∧ outer.Meets source rest := by
  obtain ⟨tag_meets, tags⟩ := List.forall_mem_cons.mp meets.opened
  obtain ⟨complete, others⟩ := List.forall_mem_cons.mp meets.scopes
  exact ⟨tag_meets, complete, tags, (List.forall_mem_cons.mp meets.ahead).2, others, meets.sorted,
    meets.blocks⟩

/-- With a tag that has changed in place, and a body that begins, everything stays in place. -/
theorem Meets.change {outer : Assembly} {tag changed : OpenTag} {body : Body}
    (meets : Meets source rest ⟨tag :: outer.opened, body :: outer.scopes, outer.blocks⟩)
    (changes : changed.Meets source)
    (sameSpan : (Segment.opening changed).span? = (Segment.opening tag).span?) :
    Meets source rest ⟨changed :: outer.opened, [] :: outer.scopes, outer.blocks⟩ := by
  obtain ⟨-, -, around⟩ := meets.around
  obtain ⟨before, -⟩ := List.forall_mem_cons.mp meets.ahead
  exact ⟨List.forall_mem_cons.mpr ⟨changes, around.opened⟩,
    List.forall_mem_cons.mpr ⟨by rwa [sameSpan], around.ahead⟩,
    List.forall_mem_cons.mpr ⟨trivial, around.scopes⟩, meets.sorted, meets.blocks⟩

/-- Beginning a named body keeps everything in place. -/
theorem Meets.beginBody {name : String} {place : Span}
    (meets : assembly.Meets source rest) (begun : assembly.beginBody name place = .ok next) :
    next.Meets source rest := by
  cases beginBody_cases begun with
  | afterMain =>
    obtain ⟨tag, complete, -⟩ := meets.around
    exact meets.change (element_withMain tag complete) rfl
  | afterNamed current =>
    obtain ⟨tag, complete, -⟩ := meets.around
    exact meets.change (element_withBody tag current complete) rfl

/-- With fewer segments left everything stays in place. -/
theorem Meets.behind (meets : assembly.Meets source (segment :: rest)) :
    assembly.Meets source rest :=
  ⟨meets.opened, fun tag mem span has later follows => meets.ahead tag mem span has later
    (List.mem_cons_of_mem _ follows), meets.scopes, meets.sorted, meets.blocks⟩

/-- Closing a tag keeps everything in place. -/
theorem Meets.close {key : String} {place : Span}
    (meets : assembly.Meets source (.closing key place :: rest))
    (closing : (Segment.closing key place).Meets source)
    (closed : assembly.close key place = .ok next) : next.Meets source rest := by
  have before {outer : Assembly} {tag : OpenTag} {body : Body} {span : Span}
      (meets : Meets source (.closing key place :: rest)
        ⟨tag :: outer.opened, body :: outer.scopes, outer.blocks⟩)
      (has : span ∈ (Segment.opening tag).span?) : span.stop ≤ place.start :=
    (List.forall_mem_cons.mp meets.ahead).1 span has _ List.mem_cons_self place rfl
  cases close_cases closed with
  | main =>
    obtain ⟨tag, complete, around⟩ := meets.around
    exact around.behind.add
      (element_cover (element_withMain tag complete) closing (before meets rfl))
  | named current =>
    obtain ⟨tag, complete, around⟩ := meets.around
    have whole := element_withDefault (element_withBody tag current complete)
    exact around.behind.add (element_cover whole closing (before meets rfl))
  | block =>
    obtain ⟨tag, complete, around⟩ := meets.around
    exact around.behind.add ⟨trivial, tag, complete⟩
  | definition =>
    obtain ⟨-, complete, around⟩ := meets.around
    exact around.behind.define _ complete

/-- One more segment keeps everything in place. -/
theorem Meets.step (meets : assembly.Meets source (segment :: rest))
    (placed : Segment.Placed source (segment :: rest))
    (taken : assembly.step segment = .ok next) : next.Meets source rest := by
  have here := placed.meets segment List.mem_cons_self
  cases segment with
  | part part =>
    cases taken
    exact meets.behind.add here
  | definition name =>
    cases taken
    exact meets.behind.define name trivial
  | opening tag =>
    cases taken
    have before := (List.pairwise_cons.mp placed.ordered).1
    refine ⟨List.forall_mem_cons.mpr ⟨here, meets.opened⟩,
      List.forall_mem_cons.mpr ⟨fun span has later mem => before later mem span has,
        meets.behind.ahead⟩, List.forall_mem_cons.mpr ⟨trivial, meets.scopes⟩, meets.sorted,
      meets.blocks⟩
  | body name span => exact meets.behind.beginBody taken
  | closing key span => exact meets.close here taken

/-- Segments in place are put together to what is in place. -/
theorem Meets.run {segments : List Segment} (meets : assembly.Meets source segments)
    (placed : Segment.Placed source segments) (together : assembly.run segments = .ok next) :
    next.Meets source [] := by
  induction segments generalizing assembly with
  | nil =>
    cases together
    exact meets
  | cons segment rest induction =>
    obtain ⟨after, taken, together⟩ := run_cons_eq_ok together
    have later : Segment.Placed source rest :=
      ⟨(List.forall_mem_cons.mp placed.meets).2, (List.pairwise_cons.mp placed.ordered).2⟩
    exact induction (meets.step placed taken) later together

/-- Nothing is in the wrong place at the beginning. -/
theorem start_meets (segments : List Segment) : Assembly.start.Meets source segments :=
  ⟨by simp [start], by simp [start], by simp [start, Part.AllMeet], List.Pairwise.nil, trivial⟩

end Assembly

/-! ### Compiled templates -/

/-- A result that is there is a success. -/
theorem Except.eq_ok_of_toOption {ε α : Type} {result : Except ε α} {value : α}
    (found : result.toOption = some value) : result = .ok value := by
  cases result with
  | error _ => cases found
  | ok _ => exact congrArg Except.ok (Option.some.inj found)

/-- The body and the inline partials of a text in the source are in place. -/
theorem Body.ofText_meets (strings : ReadsPlaced source readString) {whitespace : Whitespace}
    {text before after : List Char} {body : Body} {blocks : Dict Body}
    (same : source = before ++ text ++ after)
    (read : Body.ofText readString whitespace source (Text.byteSize before) text =
      .ok (body, blocks)) :
    Part.AllMeet (writtenIn source) body ∧ blocks.Sorted ∧
      Part.BodiesMeet (writtenIn source) blocks := by
  have tokens := (Token.meaningful_placedFrom .text (Text.byteSize before) text same rfl).placed
  obtain ⟨assembly, together, read⟩ := bind_eq_ok read
  have meets := (Assembly.start_meets _).run
    (Segment.stream_placed strings whitespace tokens).1 together
  split at read
  · cases read
  · unfold Assembly.finish at read
    split at read
    · cases read
    · cases read
      refine ⟨?_, meets.sorted, meets.blocks⟩
      cases scopes : assembly.scopes with
      | nil => trivial
      | cons scope outer => exact meets.scopes scope (by simp [scopes])

/-- A part without the escapes of its text meets the demands that it did, if texts always do. -/
theorem Part.unescaped_meets {demand : Demand} {part : Part}
    (texts : ∀ content, demand.part (.text content)) (meets : part.Meets demand) :
    part.unescaped.Meets demand := by
  cases part with
  | text content => exact texts _
  | _ => exact meets

/-- The parts of a string without the escapes of their texts meet the demands that they did, if
texts always do. -/
theorem Body.unescaped_meets {demand : Demand} {body : Body}
    (texts : ∀ content, demand.part (.text content)) (meets : Part.AllMeet demand body) :
    Part.AllMeet demand
      (body.foldl (fun (joined : Body) part => joined.push part.unescaped) []) := by
  rw [Part.allMeet_iff] at meets
  refine List.foldlRecOn body _ (motive := Part.AllMeet demand) trivial ?_
  exact fun joined joined_meets part mem =>
    Body.push_meets texts joined_meets (Part.unescaped_meets texts (meets part mem))

/-- A string that stands in the source and holds no tags is in place. -/
theorem Token.plainBody_readsPlaced :
    ReadsPlaced source fun string => .ok string.plainBody := by
  intro token body _ _ _ read
  cases read
  exact Body.push_meets (fun _ => trivial) trivial trivial

/-- The inside of a string stands in the source. -/
theorem Token.inside_string {token : Token} (kind : token.kind = .string)
    (shows : token.span.Shows source token.text) (spelled : token.IsSpelled) :
    ∃ before after, source = before ++ token.inside 1 1 ++ after ∧
      token.start + 1 = Text.byteSize before := by
  simp only [Token.IsSpelled, kind] at spelled
  obtain ⟨content, spelled⟩ := spelled
  obtain ⟨before, after, same, place⟩ := shows
  obtain ⟨rest, closes⟩ : ∃ rest, content = token.inside 1 1 ++ rest :=
    ⟨_, by rw [Token.inside, spelled]; exact (List.take_append_drop _ content).symm⟩
  refine ⟨before ++ ['"'], rest ++ after, by rw [same, spelled, closes]; simp, ?_⟩
  rw [Text.byteSize_append]
  exact congrArg (· + 1) (congrArg Span.start place)

/-- A string that stands in the source is in place. -/
theorem Token.stringBody_readsPlaced : ReadsPlaced source (Token.stringBody source) := by
  intro token body kind shows spelled read
  obtain ⟨before, after, same, start⟩ := Token.inside_string kind shows spelled
  unfold Token.stringBody at read
  split at read
  · obtain ⟨⟨inner, blocks⟩, innerRead, complete⟩ := bind_eq_ok read
    cases complete
    rw [start] at innerRead
    exact Body.unescaped_meets (fun _ => trivial)
      (Body.ofText_meets plainBody_readsPlaced same innerRead).1
  · cases read
    exact Body.push_meets (fun _ => trivial) trivial trivial

/-- Whatever is written in a compiled template stands at its place in the source. -/
theorem Template.compile_meets {whitespace : Whitespace} {source : String} {template : Template}
    (compiled : Template.compile whitespace source = .ok template) :
    template.Meets (writtenIn source.toList) := by
  obtain ⟨⟨body, blocks⟩, read, complete⟩ := bind_eq_ok compiled
  cases complete
  have whole : source.toList = [] ++ source.toList ++ [] := by simp
  obtain ⟨body_meets, sorted, blocks_meet⟩ :=
    Body.ofText_meets Token.stringBody_readsPlaced whole read
  exact ⟨body_meets, sorted, blocks_meet⟩

/-- The source of a compiled template is what it is compiled from. -/
theorem Template.compile_source {whitespace : Whitespace} {source : String} {template : Template}
    (compiled : Template.compile whitespace source = .ok template) :
    template.source = source := by
  obtain ⟨⟨body, blocks⟩, read, complete⟩ := bind_eq_ok compiled
  cases complete
  rfl

end Dust
