import Dust.Proofs.Syntax.TagExtent

/-!
# Compiled templates are faithful

While segments are put together, the open tags and the bodies that are collected are two stacks with
one invariant: every tag begins where the body around it has ended so far, and holds all that has
come since. A tag that is closed becomes a part of the body around it, which then ends where the
close tag does. So the whole tree has the shape of the source, in strings and inline partials too.
-/

namespace Dust

variable {source : List Char}

/-! ### Tags that are open -/

namespace Head.IsOpenIn

variable {room outer span place : Span} {head : Head} {params : List Param} {key : String}
  {main : Option Body} {bodies : Dict Body} {body : Body}

/-- An open tag stays in its room when the room goes on. -/
theorem grow {start stop later : Nat}
    (opened : head.IsOpenIn source ⟨start, stop⟩ params key span main bodies) (le : stop ≤ later) :
    head.IsOpenIn source ⟨start, later⟩ params key span main bodies := by
  exact ⟨opened.begins, opened.shows, opened.key, opened.tidy, opened.pieces.grow (.upTo le)⟩

/-- The main body is complete. -/
theorem withMain (opened : head.IsOpenIn source room params key span main bodies)
    (stands : body.StandsIn source room) :
    head.IsOpenIn source room params key span (some body) bodies := by
  obtain ⟨tag, given, _, sorted, named, place⟩ := opened.pieces
  obtain ⟨path, arguments, _, others⟩ := opened.tidy
  exact ⟨opened.begins, opened.shows, opened.key,
    ⟨path, arguments, by simpa using stands.tidy, others⟩,
    ⟨tag, given, stands.meets, sorted, named, place⟩⟩

/-- A main body that is missing counts as empty. -/
theorem withDefault (opened : head.IsOpenIn source room params key span main bodies)
    (le : room.start ≤ room.stop) :
    head.IsOpenIn source room params key span (some (main.getD [])) bodies := by
  cases main with
  | none => exact opened.withMain (.nil le)
  | some main => exact opened

/-- A named body is complete. -/
theorem withBody (opened : head.IsOpenIn source room params key span main bodies) (name : String)
    (stands : body.StandsIn source room) :
    head.IsOpenIn source room params key span main (bodies.insert name body) := by
  obtain ⟨tag, given, inner, _, named, place⟩ := opened.pieces
  obtain ⟨path, arguments, mainTidy, others⟩ := opened.tidy
  have tidy : ∀ entry ∈ bodies.insert name body, Body.IsTidy entry.2 := by
    intro entry mem
    rcases Dict.mem_insert mem with rfl | mem
    · exact stands.tidy
    · exact others entry mem
  exact ⟨opened.begins, opened.shows, opened.key, ⟨path, arguments, mainTidy, tidy⟩,
    ⟨tag, given, inner, trivial, Assembly.bodiesMeet_insert name named stands.meets, place⟩⟩

/-- A tag that is closed with its key is a part of the source from its opening to the end of the
close tag. -/
theorem close {main : Body}
    (opened : head.IsOpenIn source room params key span (some main) bodies)
    (behind : room.stop ≤ place.start)
    (closes : ∃ text, place.Shows source text ∧ ClosesTag key.toList text) :
    (Part.element head params (some main) bodies (span.cover place)).Meets
      (standsIn source ⟨room.start, place.stop⟩) := by
  obtain ⟨text, opened_shows, front⟩ := opened.shows
  obtain ⟨tag, place_shows, closing⟩ := closes
  have span_le := opened_shows.isIn.le
  have place_le := place_shows.isIn.le
  have stop_le : span.stop ≤ room.stop := by
    obtain ⟨_, _, _, _, _, within⟩ := opened.pieces
    exact within.stop
  have start_le : span.start ≤ place.start := by omega
  have end_le : span.stop ≤ place.stop := by omega
  obtain ⟨whole, shows, first, last⟩ := opened_shows.cover place_shows start_le end_le
  rw [Span.cover_eq start_le end_le, opened.begins] at shows ⊢
  have around : Span.Encloses ⟨room.start, place.stop⟩ room :=
    ⟨Nat.le_refl _, Nat.le_trans behind place_le⟩
  have pieces : (Part.element head params (some main) bodies
      ⟨room.start, place.stop⟩).PiecesMeet (standsIn source ⟨room.start, place.stop⟩) := by
    -- the span of the opening is no piece any more: the part has the span of the whole
    obtain ⟨headMeets, given, inner, sorted, named, _⟩ := opened.pieces.grow around
    exact ⟨headMeets, given, inner, sorted, named, .refl _⟩
  have key_closing : ClosesTag (head.key source) tag := opened.key ▸ closing
  have brace : ['}'] <:+ tag := by
    obtain ⟨blanks, _, rfl⟩ := closing
    exact ⟨'{' :: '/' :: (key.toList ++ blanks), by simp⟩
  exact pieces.stands rfl (.refl _) ⟨whole, shows, front.trans first, brace.trans last⟩ opened.tidy
    ⟨whole, tag, shows, last, key_closing⟩

end Head.IsOpenIn

/-- An open tag stays in its room when the room goes on. -/
theorem OpenTag.StandsIn.grow {tag : OpenTag} {start stop later : Nat}
    (stands : tag.StandsIn source ⟨start, stop⟩) (le : stop ≤ later) :
    tag.StandsIn source ⟨start, later⟩ := by
  cases tag with
  | element head params key span main bodies current => exact Head.IsOpenIn.grow stands le
  | block name defines => exact (Span.Encloses.upTo le).trans stands

/-! ### Stacks -/

namespace Assembly

/-- Open tags and the bodies that they collect, up to a byte. The outermost body begins at a byte,
and a tag begins where the body around it has ended. -/
inductive Stacked (source : List Char) (start : Nat) : List OpenTag → List Body → Nat → Prop where
  /-- No tag is open. -/
  | bottom {body : Body} {stop : Nat} (stands : body.StandsIn source ⟨start, stop⟩) :
    Stacked source start [] [body] stop
  /-- The innermost tag collects the innermost body. -/
  | tag {opened : List OpenTag} {scopes : List Body} {tag : OpenTag} {body : Body}
    {opening stop : Nat} (around : Stacked source start opened scopes opening)
    (opens : tag.StandsIn source ⟨opening, stop⟩)
    (collects : body.StandsIn source ⟨opening, stop⟩) :
    Stacked source start (tag :: opened) (body :: scopes) stop

variable {start stop later : Nat} {opened : List OpenTag} {scopes : List Body} {body : Body}
  {place : Span}

/-- Nothing changes up to a later byte. -/
theorem Stacked.grow (stacked : Stacked source start opened scopes stop) (le : stop ≤ later) :
    Stacked source start opened scopes later := by
  cases stacked with
  | bottom stands => exact .bottom (stands.grow (.upTo le))
  | tag around opens collects =>
    exact .tag around (opens.grow le) (collects.grow (.upTo le))

/-- The innermost body takes a part behind all that has come. -/
theorem Stacked.push {part : Part} (stacked : Stacked source start opened (body :: scopes) stop)
    (behind : stop ≤ place.start) (le : place.start ≤ place.stop)
    (meets : part.Meets (standsIn source place)) :
    Stacked source start opened (body.push part :: scopes) place.stop := by
  cases stacked with
  | bottom stands => exact .bottom (stands.push behind le meets)
  | tag around opens collects =>
    exact .tag around (opens.grow (Nat.le_trans behind le)) (collects.push behind le meets)

/-- What has been put together of a text is faithful up to a byte. -/
structure StandsIn (source : List Char) (room : Span) (assembly : Assembly) : Prop where
  /-- The open tags and the bodies are. -/
  stacked : Stacked source room.start assembly.opened assembly.scopes room.stop
  /-- The inline partials stand somewhere. -/
  blocks : ∀ entry ∈ assembly.blocks, ∃ place, Body.StandsIn source place entry.2

namespace StandsIn

variable {assembly next : Assembly}

/-- Nothing changes up to a later byte. -/
theorem grow (stands : assembly.StandsIn source ⟨start, stop⟩) (le : stop ≤ later) :
    assembly.StandsIn source ⟨start, later⟩ :=
  ⟨stands.stacked.grow le, stands.blocks⟩

/-- A part is added behind all that has come. -/
theorem add {part : Part} {opening : Nat} (stands : assembly.StandsIn source ⟨start, stop⟩)
    (behind : stop ≤ opening) (le : opening ≤ later)
    (meets : part.Meets (standsIn source ⟨opening, later⟩)) :
    (assembly.add part).StandsIn source ⟨start, later⟩ := by
  obtain ⟨opened, scopes, blocks⟩ := assembly
  obtain ⟨stacked, inline⟩ := stands
  cases scopes with
  | nil => cases stacked
  | cons body scopes =>
    have pushed : Stacked source start opened (body.push part :: scopes) later :=
      Stacked.push stacked behind le meets
    exact ⟨pushed, inline⟩

/-- An inline partial is set aside. -/
theorem define {room : Span} (stands : assembly.StandsIn source ⟨start, stop⟩) (name : String)
    (inline : body.StandsIn source room) :
    (assembly.define name body).StandsIn source ⟨start, stop⟩ := by
  refine ⟨stands.stacked, fun entry mem => ?_⟩
  rcases Dict.mem_insert mem with rfl | mem
  · exact ⟨room, inline⟩
  · exact stands.blocks entry mem

/-- A named body begins where the innermost one ends. -/
theorem beginBody {name : String} {span : Span} (stands : assembly.StandsIn source ⟨start, stop⟩)
    (begun : assembly.beginBody name span = .ok next) : next.StandsIn source ⟨start, stop⟩ := by
  obtain ⟨stacked, inline⟩ := stands
  cases beginBody_cases begun with
  | afterMain =>
    cases stacked with
    | tag around opens collects =>
      exact ⟨.tag around (Head.IsOpenIn.withMain opens collects) (.nil collects.le), inline⟩
  | afterNamed current =>
    cases stacked with
    | tag around opens collects =>
      have complete := Head.IsOpenIn.withBody opens current collects
      exact ⟨.tag around complete (.nil collects.le), inline⟩

/-- Closing the innermost tag adds a part up to the end of the close tag. -/
theorem close {key : String} {span : Span} (stands : assembly.StandsIn source ⟨start, stop⟩)
    (behind : stop ≤ span.start)
    (closes : ∃ text, span.Shows source text ∧ ClosesTag key.toList text)
    (closed : assembly.close key span = .ok next) : next.StandsIn source ⟨start, span.stop⟩ := by
  obtain ⟨stacked, inline⟩ := stands
  have span_le : span.start ≤ span.stop := by
    obtain ⟨text, shows, _⟩ := closes
    exact shows.isIn.le
  have stop_le := Nat.le_trans behind span_le
  have le {opening : Nat} {body : Body} (collects : body.StandsIn source ⟨opening, stop⟩) :
      opening ≤ span.stop := Nat.le_trans collects.le stop_le
  cases close_cases closed with
  | main =>
    cases stacked with
    | tag around opens collects =>
      have whole := (Head.IsOpenIn.withMain opens collects).close behind closes
      exact add ⟨around, inline⟩ (Nat.le_refl _) (le collects) whole
  | named current =>
    cases stacked with
    | tag around opens collects =>
      -- a main body is there since a named one has begun, which the stacks do not tell
      have complete := Head.IsOpenIn.withBody opens current collects
      have whole := (complete.withDefault collects.le).close behind closes
      exact add ⟨around, inline⟩ (Nat.le_refl _) (le collects) whole
  | @block _ name body =>
    cases stacked with
    | @tag _ _ _ _ opening _ around opens collects =>
      have longer : Span.Encloses ⟨opening, span.stop⟩ ⟨opening, stop⟩ := .upTo stop_le
      have tidy : (Part.block name (some body)).IsTidy := by
        simpa [Part.IsTidy] using collects.tidy
      have whole : (Part.block name (some body)).Meets (standsIn source ⟨opening, span.stop⟩) :=
        ⟨Part.isFaithful_of_span? rfl tidy, longer.trans opens, (collects.grow longer).meets⟩
      exact add ⟨around, inline⟩ (Nat.le_refl _) (le collects) whole
  | @definition outer name =>
    cases stacked with
    | @tag _ _ _ _ opening _ around opens collects =>
      have outside : outer.StandsIn source ⟨start, opening⟩ := ⟨around, inline⟩
      exact (outside.define name.name collects).grow (le collects)

/-- One more segment is put to what stands before it. -/
theorem step {segment : Segment} (stands : assembly.StandsIn source ⟨start, stop⟩)
    (behind : stop ≤ place.start) (le : place.start ≤ place.stop)
    (here : segment.StandsIn source place) (taken : assembly.step segment = .ok next) :
    next.StandsIn source ⟨start, place.stop⟩ := by
  have whole_le := Nat.le_trans behind le
  cases segment with
  | part part =>
    cases taken
    exact stands.add behind le here
  | definition name =>
    cases taken
    exact (stands.grow whole_le).define name (Body.StandsIn.nil le)
  | opening tag =>
    cases taken
    exact ⟨.tag (stands.stacked.grow behind) here (.nil le), stands.blocks⟩
  | body name span => exact (stands.beginBody taken).grow whole_le
  | closing key span =>
    obtain ⟨within, closes⟩ := here
    exact (stands.close (Nat.le_trans behind within.start) closes taken).grow within.stop

/-- Segments in a room are put together up to its end. -/
theorem run {segments : List Segment} (stands : assembly.StandsIn source ⟨start, stop⟩)
    (laid : Segment.LaidOut source ⟨stop, later⟩ segments)
    (together : assembly.run segments = .ok next) : next.StandsIn source ⟨start, later⟩ := by
  induction segments generalizing assembly stop with
  | nil =>
    cases together
    exact stands.grow laid
  | cons segment rest induction =>
    obtain ⟨after, taken, together⟩ := run_cons_eq_ok together
    obtain ⟨place, behind, le, here, others⟩ := laid
    exact induction (stands.step behind le here taken) others together

end StandsIn

/-- At the beginning nothing has come. -/
theorem start_standsIn (start : Nat) : Assembly.start.StandsIn source ⟨start, start⟩ :=
  ⟨.bottom (.nil (Nat.le_refl _)), by simp [Assembly.start]⟩

end Assembly

/-! ### Compiled texts -/

/-- The body of a text in the source stands where the text stands, and so do its inline partials
somewhere. -/
theorem Body.ofText_stands {readString : Token → Except Located Body}
    (strings : ReadsInside source readString) {whitespace : Whitespace}
    {text before after : List Char} {body : Body} {blocks : Dict Body}
    (same : source = before ++ text ++ after)
    (read : Body.ofText readString whitespace source (Text.byteSize before) text =
      .ok (body, blocks)) :
    body.StandsIn source
        ⟨Text.byteSize before, Text.byteSize before + Text.byteSize text⟩ ∧
      ∀ entry ∈ blocks, ∃ place, Body.StandsIn source place entry.2 := by
  have tokens := Token.meaningful_laid same
  have behind := (Token.meaningful_placedFrom .text (Text.byteSize before) text same rfl).behind
  obtain ⟨assembly, together, read⟩ := bind_eq_ok read
  have laid := Segment.stream_laidOut
    ⟨source, (Token.meaningful .text (Text.byteSize before) text).failure⟩ strings whitespace tokens
    (Nat.le_add_right _ _) behind
  have stands := (Assembly.start_standsIn _).run laid together
  split at read
  · cases read
  · unfold Assembly.finish at read
    split at read
    · cases read
    · rename_i none
      cases read
      obtain ⟨opened, scopes, blocks⟩ := assembly
      obtain ⟨stacked, inline⟩ := stands
      have closed : opened = [] := List.getLast?_eq_none_iff.mp none
      cases stacked with
      | bottom stands => exact ⟨stands, inline⟩
      | tag => cases closed

/-- A string without tags is one text. -/
theorem Token.plainBody_stands (token : Token) :
    token.plainBody.StandsIn source token.span := by
  have le : token.span.start ≤ token.span.stop := token.start_le_stop
  have empty : Body.StandsIn source ⟨token.span.start, token.span.start⟩ [] := .nil (Nat.le_refl _)
  have text (content : String) : (Part.text content).Meets (standsIn source token.span) :=
    Part.isFaithful_text content
  exact empty.push (Nat.le_refl _) le (text _)

/-- The inside of a string is shorter than the string. -/
theorem Token.inside_le {token : Token} (kind : token.kind = .string) (spelled : token.IsSpelled) :
    token.start + 1 + Text.byteSize (token.inside 1 1) ≤ token.stop := by
  simp only [IsSpelled, kind] at spelled
  obtain ⟨content, spelled⟩ := spelled
  have split : content = token.inside 1 1 ++ content.drop (token.text.length - 1 - 1) := by
    rw [inside, spelled]
    exact (List.take_append_drop _ content).symm
  have size : Text.byteSize token.text = 1 + Text.byteSize content := by
    rw [spelled, Text.byteSize_cons]
    rfl
  rw [stop, size, split, Text.byteSize_append]
  omega

/-- A string is read as a body inside of its token. -/
theorem Token.stringBody_readsInside : ReadsInside source (Token.stringBody source) := by
  intro token body kind shows spelled read
  obtain ⟨before, after, same, start⟩ := Token.inside_string kind shows spelled
  unfold Token.stringBody at read
  split at read
  · obtain ⟨⟨inner, blocks⟩, innerRead, complete⟩ := bind_eq_ok read
    cases complete
    rw [start] at innerRead
    have plain : ReadsInside source fun string => .ok string.plainBody := by
      intro token body _ _ _ read
      cases read
      exact token.plainBody_stands
    have stands := (Body.ofText_stands plain same innerRead).1.unescaped
    have within := Token.inside_le kind spelled
    rw [← start] at stands
    exact stands.grow ⟨Nat.le_succ _, within⟩
  · cases read
    exact token.plainBody_stands

/-- A compiled template has the shape of its source. -/
theorem Template.compile_isFaithful {whitespace : Whitespace} {source : String}
    {template : Template} (compiled : Template.compile whitespace source = .ok template) :
    template.IsFaithful source.toList where
  written := Template.compile_meets compiled
  bodies body holds := by
    obtain ⟨⟨outer, blocks⟩, read, complete⟩ := bind_eq_ok compiled
    cases complete
    have whole : source.toList = [] ++ source.toList ++ [] := by simp
    obtain ⟨stands, inline⟩ := Body.ofText_stands Token.stringBody_readsInside whole read
    rcases holds with inBody | ⟨entry, mem, inBlock⟩
    · exact stands.within inBody
    · obtain ⟨place, entry_stands⟩ := inline entry mem
      exact entry_stands.within inBlock

/-- A section over two lines with a partial whose name is rendered, a named body with a helper and
an inline partial, and blank space in the close tag. -/
def tagsInTags : String :=
  "\x7b#a[b.c] x=1\x7d\n \x7b>\"p\x7bn|h\x7d\" y=\"z \x7bd\x7d\"/\x7d!\x7b:else\x7d" ++
    "\x7b@f k=\"\x7be\x7d\"/\x7d\x7b<g\x7din\x7b/g\x7d\x7b/a[b.c] \x7d\x7b.\x7d"

/-- The section ends where the reference behind it begins. -/
theorem Template.compile_isFaithful_tagsInTags :
    ∃ template, Template.compile .compress tagsInTags = .ok template ∧
      template.IsFaithful tagsInTags.toList ∧
      template.body.filterMap Part.span? = [⟨0, 78⟩, ⟨78, 81⟩] := by
  have spans : (Template.compile .compress tagsInTags).toOption.map
      (·.body.filterMap Part.span?) = some [⟨0, 78⟩, ⟨78, 81⟩] := by
    decide +kernel
  obtain ⟨template, compiled, same⟩ := Option.map_eq_some_iff.mp spans
  have compiled := Except.eq_ok_of_toOption compiled
  exact ⟨template, compiled, Template.compile_isFaithful compiled, same⟩

end Dust
