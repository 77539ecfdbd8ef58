import Dust.Proofs.Syntax.Extent

/-!
# Where tags stand

A segment stands in the room from its first token to its last one, and the rooms of the segments of
a text stand one behind the other. A part that is complete is faithful there; a tag that is open is
so but for its end, and a close tag reads as its key.
-/

namespace Dust

/-- The tag of a section or helper is open, and what is known of it stands in a room, which begins
with the tag. -/
structure Head.IsOpenIn (source : List Char) (room : Span) (head : Head) (params : List Param)
    (key : String) (span : Span) (main : Option Body) (bodies : Dict Body) : Prop where
  /-- The room begins with the tag. -/
  begins : span.start = room.start
  /-- The tag shows a text that begins with a brace. -/
  shows : ∃ text, span.Shows source text ∧ ['{'] <+: text
  /-- The close tag has to repeat the key. -/
  key : key.toList = head.key source
  /-- The bodies that are complete are tidy. -/
  tidy : (Part.element head params main bodies span).IsTidy
  /-- All that is known stands in the room. -/
  pieces : (Part.element head params main bodies span).PiecesMeet (standsIn source room)

/-- What is known of an open tag stands in a room. -/
def OpenTag.StandsIn (source : List Char) (room : Span) : OpenTag → Prop
  | .element head params key span main bodies _ =>
    head.IsOpenIn source room params key span main bodies
  | .block name _ => room.Encloses name.span

/-- A segment stands in a room. -/
def Segment.StandsIn (source : List Char) (room : Span) : Segment → Prop
  | .part piece => piece.Meets (standsIn source room)
  | .opening tag => tag.StandsIn source room
  | .closing key span =>
    room.Encloses span ∧ ∃ text, span.Shows source text ∧ ClosesTag key.toList text
  | _ => True

/-- A segment stands between its first token and its last one, which is before those that are
left. -/
def Segment.StandsFrom (source : List Char) (first : Token) (tokens rest : List Token)
    (segment : Segment) : Prop :=
  ∃ last ∈ first :: tokens, (∀ later ∈ rest, last.stop ≤ later.start) ∧
    segment.StandsIn source ⟨first.start, last.stop⟩

namespace Segment

variable {source : List Char} {input : Input} {readString : Token → Except Located Body}
  {first last : Token} {tokens rest : List Token} {segment : Segment} {stop : Nat}

/-- A segment that is one token stands in it. -/
theorem StandsFrom.token (placed : Token.Placed source (first :: tokens))
    (stands : segment.StandsIn source first.span) : StandsFrom source first tokens tokens segment :=
  ⟨first, List.mem_cons_self, placed.ahead, stands⟩

/-- A text stands in every room. -/
theorem standsIn_text (room : Span) (content : String) :
    (Segment.part (.text content)).StandsIn source room :=
  Part.isFaithful_text content

/-- A segment that is a tag stands between its opening and its end. -/
theorem StandsFrom.tag (placed : Token.Placed source (first :: tokens))
    (suffix : last :: rest <:+ tokens)
    (stands : segment.StandsIn source ⟨first.start, last.stop⟩) :
    StandsFrom source first tokens rest segment :=
  ⟨last, List.mem_cons_of_mem _ (suffix.mem List.mem_cons_self),
    (placed.tail.suffix suffix).ahead, stands⟩

/-- A reference that is read stands in its span. -/
theorem readReference_stands (laid : Token.Laid source stop (first :: tokens))
    (opens : first.kind.opensTag = true)
    (read : readReference input first tokens = .ok (segment, rest)) :
    StandsFrom source first tokens rest segment := by
  obtain ⟨path, _, filters, last, pathRead, filtersRead, closes, rfl⟩ := readReference_eq_ok read
  have filters_suffix := Identifier.readFilters_suffix filtersRead
  have path_suffix := readPath_suffix pathRead
  have suffix := filters_suffix.trans path_suffix
  have spans := laid.placed.tag_spans last rest
  obtain ⟨nested, within⟩ := Path.read_nested laid.placed.tail
    (spans.inner List.suffix_rfl filters_suffix) pathRead
  have filters_within := Identifier.readFilters_within (laid.placed.tail.suffix path_suffix)
    (spans.inner path_suffix List.suffix_rfl) filtersRead
  have pieces : (Part.reference path filters ⟨first.start, last.stop⟩).PiecesMeet
      (standsIn source ⟨first.start, last.stop⟩) := ⟨nested.meets within, filters_within, .refl _⟩
  refine .tag laid.placed suffix ?_
  rw [laid.placed.cover_eq (suffix.mem List.mem_cons_self)]
  exact pieces.stands rfl (.refl _) (laid.tag_shows opens suffix (.inl closes)) nested trivial

/-- The rest of a section or helper that is read stands in its span with its key. -/
theorem readElement_stands (strings : ReadsInside source readString) {before : List Token}
    {head : Head} {key : String} (laid : Token.Laid source stop (first :: before))
    (opens : first.kind.opensTag = true) (suffix : tokens <:+ before)
    (known : key.toList = head.key source)
    (stands : ∀ last left, last :: left <:+ tokens →
      head.IsTidy ∧ head.Meets (standsIn source ⟨first.start, last.stop⟩))
    (read : readElement input readString first head key tokens = .ok (segment, rest)) :
    StandsFrom source first before rest segment := by
  obtain ⟨params, last, paramsRead, read⟩ := readElement_cases read
  have params_suffix := Param.readAll_suffix paramsRead
  have whole_suffix := params_suffix.trans suffix
  have spans := laid.placed.tag_spans last rest
  obtain ⟨tidy, meets⟩ := stands last rest params_suffix
  obtain ⟨params_tidy, params_meet⟩ := Param.readAll_stand strings
    (laid.placed.tail.suffix suffix) (spans.inner suffix List.suffix_rfl) paramsRead
  have shows := laid.tag_shows opens whole_suffix read.closes
  have pieces : (Part.element head params none [] ⟨first.start, last.stop⟩).PiecesMeet
      (standsIn source ⟨first.start, last.stop⟩) :=
    ⟨meets, params_meet, trivial, trivial, trivial, .refl _⟩
  have whole_tidy : (Part.element head params none [] ⟨first.start, last.stop⟩).IsTidy :=
    ⟨tidy, params_tidy, by simp, by simp⟩
  have cover := laid.placed.cover_eq (whole_suffix.mem List.mem_cons_self)
  cases read with
  | complete =>
    rw [cover]
    exact .tag laid.placed whole_suffix (pieces.stands rfl (.refl _) shows whole_tidy trivial)
  | opened =>
    obtain ⟨text, text_shows, front, _⟩ := shows
    rw [cover]
    exact .tag laid.placed whole_suffix
      ⟨rfl, ⟨text, text_shows, front⟩, known, whole_tidy, pieces⟩

/-- A section that is read stands in its span with its key. -/
theorem readSection_stands (strings : ReadsInside input.source readString) {kind : SectionKind}
    (laid : Token.Laid input.source stop (first :: tokens)) (opens : first.kind.opensTag = true)
    (read : readSection input readString kind first tokens = .ok (segment, rest)) :
    StandsFrom input.source first tokens rest segment := by
  obtain ⟨⟨path, afterPath⟩, pathRead, read⟩ := bind_eq_ok read
  have suffix := readPath_suffix pathRead
  refine readElement_stands strings laid opens suffix (by simp [Head.key])
    (fun last left later => ?_) read
  have spans := laid.placed.tag_spans last left
  obtain ⟨nested, within⟩ := Path.read_nested laid.placed.tail
    (spans.inner List.suffix_rfl later) pathRead
  exact ⟨nested, nested.meets within⟩

/-- A call of a helper that is read stands in its span with its name. -/
theorem readHelper_stands (strings : ReadsInside source readString)
    (laid : Token.Laid source stop (first :: tokens)) (opens : first.kind.opensTag = true)
    (read : readHelper input readString first tokens = .ok (segment, rest)) :
    StandsFrom source first tokens rest segment := by
  obtain ⟨⟨name, afterName⟩, nameRead, complete⟩ := bind_eq_ok read
  obtain ⟨rfl, _⟩ := Input.take_eq_ok nameRead
  refine readElement_stands strings laid opens (List.suffix_cons _ _)
    (by simp [Head.key, Token.identifier]) (fun last left later => ?_) complete
  have spans := laid.placed.tag_spans last left
  exact ⟨trivial, spans.token laid.placed.tail later⟩

/-- A block or inline partial that is read stands in its tag. -/
theorem readBlock_stands {defines : Bool} (placed : Token.Placed source (first :: tokens))
    (read : readBlock input defines tokens = .ok (segment, rest)) :
    StandsFrom source first tokens rest segment := by
  obtain ⟨name, last, rfl, -, read⟩ := readBlock_cases read
  have within : Span.Encloses ⟨first.start, last.stop⟩ name.span :=
    (placed.tag_spans last rest).token placed.tail List.suffix_rfl
  have suffix : last :: rest <:+ name :: last :: rest := List.suffix_cons _ _
  cases read with
  | definition => exact .tag placed suffix trivial
  | block =>
    have tidy : (Part.block name.identifier none).IsTidy := by simp [Part.IsTidy]
    exact .tag placed suffix ⟨Part.isFaithful_of_span? rfl tidy, within, trivial⟩
  | opened => exact .tag placed suffix within

/-- A partial that is read stands in its span. -/
theorem readPartial_stands (strings : ReadsInside source readString)
    (laid : Token.Laid source stop (first :: tokens)) (opens : first.kind.opensTag = true)
    (read : readPartial input readString first tokens = .ok (segment, rest)) :
    StandsFrom source first tokens rest segment := by
  obtain ⟨target, _, context, _, params, last, targetRead, contextRead, paramsRead, closes, rfl⟩ :=
    readPartial_eq_ok read
  have target_suffix := readTarget_suffix targetRead
  have context_suffix := (takeContext_suffix contextRead).trans target_suffix
  have params_suffix := Param.readAll_suffix paramsRead
  have suffix := params_suffix.trans context_suffix
  have spans := laid.placed.tag_spans last rest
  obtain ⟨target_tidy, target_meets⟩ := Target.read_stands strings laid.placed.tail
    (spans.inner List.suffix_rfl (params_suffix.trans (takeContext_suffix contextRead))) targetRead
  have context_nested := Input.takeContext_nested (laid.placed.tail.suffix target_suffix)
    (spans.inner target_suffix params_suffix) contextRead
  obtain ⟨params_tidy, params_meet⟩ := Param.readAll_stand strings
    (laid.placed.tail.suffix context_suffix) (spans.inner context_suffix List.suffix_rfl) paramsRead
  have pieces : (Part.inclusion target context params ⟨first.start, last.stop⟩).PiecesMeet
      (standsIn source ⟨first.start, last.stop⟩) :=
    ⟨target_meets, fun path mem => (context_nested path mem).1.meets (context_nested path mem).2,
      params_meet, .refl _⟩
  have tidy : (Part.inclusion target context params ⟨first.start, last.stop⟩).IsTidy :=
    ⟨target_tidy, fun path mem => (context_nested path mem).1, params_tidy⟩
  refine .tag laid.placed suffix ?_
  rw [laid.placed.cover_eq (suffix.mem List.mem_cons_self)]
  exact pieces.stands rfl (.refl _) (laid.tag_shows opens suffix (.inr closes)) tidy trivial

/-- The tag of a named body that is read ends behind its opening. -/
theorem readBody_stands (placed : Token.Placed source (first :: tokens))
    (read : readBody input first tokens = .ok (segment, rest)) :
    StandsFrom source first tokens rest segment := by
  obtain ⟨name, last, rfl, -, -, rfl⟩ := readBody_eq_ok read
  exact .tag placed (List.suffix_cons _ _) trivial

/-- A close tag that is read stands in its span and reads as its key. -/
theorem readClosing_stands (laid : Token.Laid input.source stop (first :: tokens))
    (kind : first.kind = .openClose)
    (read : readClosing input first tokens = .ok (segment, rest)) :
    StandsFrom input.source first tokens rest segment := by
  obtain ⟨key, last, keyRead, closes, rfl⟩ := readClosing_eq_ok read
  have suffix := takeCloseKey_suffix keyRead
  obtain ⟨blanks, blank, shows⟩ := laid.closeTag kind closes keyRead
  refine .tag laid.placed suffix ?_
  rw [laid.placed.cover_eq (suffix.mem List.mem_cons_self)]
  exact ⟨.refl _, _, shows, blanks, blank, rfl⟩

/-- A segment that is read stands between its first token and its last one. -/
theorem read_stands (strings : ReadsInside input.source readString) {whitespace : Whitespace}
    (laid : Token.Laid input.source stop (first :: tokens))
    (found : read input readString whitespace first tokens = .ok (segment, rest)) :
    StandsFrom input.source first tokens rest segment := by
  have opensTag {kind : TokenKind} (same : first.kind = kind) (opens : kind.opensTag = true) :
      first.kind.opensTag = true := same ▸ opens
  cases readBy_of_read found with
  | text => exact .token laid.placed (standsIn_text _ _)
  | comment content =>
    have comment : (Part.comment content).IsFaithful input.source :=
      Part.isFaithful_of_span? rfl trivial
    exact .token laid.placed comment
  | reference opens found => exact readReference_stands laid (opensTag opens rfl) found
  | test opens found => exact readSection_stands strings laid opens found
  | helper opens found => exact readHelper_stands strings laid (opensTag opens rfl) found
  | block _ found => exact readBlock_stands laid.placed found
  | definition _ found => exact readBlock_stands laid.placed found
  | inclusion opens found => exact readPartial_stands strings laid (opensTag opens rfl) found
  | body _ found => exact readBody_stands laid.placed found
  | closing opens found => exact readClosing_stands laid opens found

/-- Segments stand in a room, one behind the other. -/
def LaidOut (source : List Char) : Span → List Segment → Prop
  | room, [] => room.start ≤ room.stop
  | room, segment :: rest =>
    ∃ place : Span, room.start ≤ place.start ∧ place.start ≤ place.stop ∧
      segment.StandsIn source place ∧ LaidOut source ⟨place.stop, room.stop⟩ rest

/-- The segments of tokens stand in the room from a byte that is not behind the tokens to where they
end. -/
theorem stream_laidOut (input : Input) (strings : ReadsInside input.source readString)
    (whitespace : Whitespace) (laid : Token.Laid input.source stop tokens) {start : Nat}
    (le : start ≤ stop) (behind : ∀ token ∈ tokens, start ≤ token.start) :
    LaidOut input.source ⟨start, stop⟩ (stream input readString whitespace tokens).items := by
  fun_induction stream input readString whitespace tokens generalizing start with
  | case1 => exact le
  | case2 => exact le
  | case3 first rest segment later found induction =>
    have suffix := read_suffix found
    obtain ⟨last, mem, before, stands⟩ := read_stands strings laid found
    have first_le : first.start ≤ last.stop := by
      have size := last.start_le_stop
      have first_size := first.start_le_stop
      rcases List.mem_cons.mp mem with rfl | mem
      · exact size
      · have ahead := laid.placed.ahead last mem
        omega
    exact ⟨⟨first.start, last.stop⟩, behind first List.mem_cons_self, first_le, stands,
      induction (laid.tail.suffix suffix) (laid.ends last mem) before⟩

end Segment

end Dust
