import Dust.Proofs.Syntax.Slices

/-!
# Between tokens

Blank space in tags is dropped, and nothing else is: between two tokens in a row stands only what is
blank, and no token ends behind the text it is cut out of. So a close tag reads as its mark, its
key, blank space and a brace.
-/

namespace Dust

variable {source : List Char}

/-! ### Spans in a row -/

namespace Span

/-- A text up to where another one begins and the other one are one text. -/
theorem Shows.join {start middle stop : Nat} {front back : List Char}
    (opened : Shows source ⟨start, middle⟩ front) (goesOn : Shows source ⟨middle, stop⟩ back) :
    Shows source ⟨start, stop⟩ (front ++ back) := by
  have first_le : start ≤ middle := opened.isIn.le
  have second_le : middle ≤ stop := goesOn.isIn.le
  have whole : Span.cover ⟨start, middle⟩ ⟨middle, stop⟩ = ⟨start, stop⟩ :=
    cover_eq first_le second_le
  have joined := opened.append goesOn rfl
  rwa [whole] at joined

/-- Nothing but blank space stands in a source at a span. -/
def IsBlank (source : List Char) (span : Span) : Prop :=
  ∃ blanks, span.Shows source blanks ∧ ∀ c ∈ blanks, isTagSpace c = true

/-- Blank space in a row is blank. -/
theorem IsBlank.join {start middle stop : Nat} (opened : IsBlank source ⟨start, middle⟩)
    (goesOn : IsBlank source ⟨middle, stop⟩) : IsBlank source ⟨start, stop⟩ := by
  obtain ⟨front, front_shows, front_blank⟩ := opened
  obtain ⟨back, back_shows, back_blank⟩ := goesOn
  exact ⟨front ++ back, front_shows.join back_shows,
    List.forall_mem_append.mpr ⟨front_blank, back_blank⟩⟩

/-- Where a text begins nothing stands before it. -/
theorem Shows.isBlank_start {span : Span} {text : List Char} (shows : span.Shows source text) :
    IsBlank source ⟨span.start, span.start⟩ := by
  obtain ⟨before, after, same, rfl⟩ := shows
  exact ⟨[], ⟨before, text ++ after, by simp [same], by simp⟩, by simp⟩

end Span

/-! ### How tokens are marked -/

namespace Token

/-- What opens a tag begins with a brace, and in blank space stands nothing else. -/
def IsMarked (token : Token) : Prop :=
  match token.kind with
  | .whitespace => ∀ c ∈ token.text, isTagSpace c = true
  | .openClose => token.text = ['{', '/']
  | kind => kind.opensTag = true → ['{'] <+: token.text

/-- A token that begins with a brace is marked. -/
theorem isMarked_of_opening {rest : List Char} {kind : TokenKind} {more start : Nat}
    (opening : Opening.ofText rest = .token kind more) :
    IsMarked ⟨kind, '{' :: rest.take more, start⟩ := by
  cases Opening.begins_of_ofText opening with
  | comment | rawText | special => nofun
  | tag named goesOn =>
    unfold TokenKind.ofSigil? at named
    split at named <;> cases named
    case h_9 => rfl
    all_goals exact fun _ => ⟨_, rfl⟩
  | reference word closes => exact fun _ => ⟨_, rfl⟩

/-- A token in a tag is marked. -/
theorem isMarked_of_scanTag {first : Char} {rest : List Char} {kind : TokenKind}
    {more start : Nat} (scan : scanTag first rest = .token kind more) :
    IsMarked ⟨kind, first :: rest.take more, start⟩ := by
  cases scansTag_of_scanTag scan with
  | space blank =>
    simp only [IsMarked, Text.take_length_takeWhile]
    exact List.forall_mem_cons.mpr ⟨blank, fun c mem => List.mem_takeWhile_imp mem⟩
  | _ => nofun

/-- The token that is scanned is marked. -/
theorem isMarked_of_scan {mode : TokenMode} {first : Char} {rest : List Char} {kind : TokenKind}
    {more start : Nat} (scan : mode.scan first rest = .token kind more) :
    IsMarked ⟨kind, first :: rest.take more, start⟩ := by
  cases TokenMode.scans_of_scan scan with
  | raw | partialName => nofun
  | opened opens => exact isMarked_of_opening opens
  | inTag scan => exact isMarked_of_scanTag scan

/-! ### Gaps -/

/-- Tokens are marked, and between them is only blank space. -/
structure Spaced (source : List Char) (stop : Nat) (tokens : List Token) : Prop where
  /-- They are marked. -/
  marked : ∀ token ∈ tokens, token.IsMarked
  /-- Between one and the next one is only blank space. -/
  gaps : ∀ token next, [token, next] <:+: tokens → Span.IsBlank source ⟨token.stop, next.start⟩
  /-- None ends behind a byte. -/
  ends : ∀ token ∈ tokens, token.stop ≤ stop

/-- Tokens are spaced, and only blank space is before them. -/
structure SpacedFrom (source : List Char) (start stop : Nat) (tokens : List Token) : Prop
    extends Spaced source stop tokens where
  /-- Before the first one is only blank space. -/
  begins : ∀ token ∈ tokens.head?, Span.IsBlank source ⟨start, token.start⟩

/-- No tokens stand anywhere. -/
theorem SpacedFrom.nil (start stop : Nat) : SpacedFrom source start stop [] :=
  ⟨⟨by simp, by simp, by simp⟩, by simp⟩

/-- A token before the tokens after it is kept unless it is blank. -/
theorem SpacedFrom.scanned {stop : Nat} {token : Token} {tokens : List Token}
    (shows : token.span.Shows source token.text) (marked : token.IsMarked)
    (ends : token.stop ≤ stop) (later : SpacedFrom source token.stop stop tokens) :
    SpacedFrom source token.start stop ([token].filter (·.kind ≠ .whitespace) ++ tokens) := by
  by_cases blank : token.kind = .whitespace
  · have dropped : [token].filter (·.kind ≠ .whitespace) = [] := by simp [blank]
    simp only [IsMarked, blank] at marked
    have space : Span.IsBlank source ⟨token.start, token.stop⟩ := ⟨token.text, shows, marked⟩
    rw [dropped, List.nil_append]
    exact ⟨later.toSpaced, fun next mem => space.join (later.begins next mem)⟩
  · have kept : [token].filter (·.kind ≠ .whitespace) = [token] := by simp [blank]
    rw [kept, List.singleton_append]
    -- the gap behind a token that is kept is what the later tokens have before them
    refine ⟨⟨List.forall_mem_cons.mpr ⟨marked, later.marked⟩, fun before next row => ?_,
      List.forall_mem_cons.mpr ⟨ends, later.ends⟩⟩, ?_⟩
    · rcases List.infix_cons_iff.mp row with row | row
      · obtain ⟨rfl, others, rfl⟩ := List.cons_prefix_cons.mp row
        exact later.begins next rfl
      · exact later.gaps before next row
    · rintro _ ⟨⟩
      exact shows.isBlank_start

/-- The tokens of a text are spaced in every source that the text is cut out of. -/
theorem meaningful_spacedFrom (mode : TokenMode) (start : Nat) (text : List Char)
    {before after : List Char} (same : source = before ++ text ++ after)
    (size : start = Text.byteSize before) :
    SpacedFrom source start (start + Text.byteSize text) (meaningful mode start text).items := by
  unfold meaningful Stream.withoutBlanks
  fun_induction Token.stream mode start text generalizing before with
  | case1 mode start => exact .nil ..
  | case2 mode start first rest fault more scan => exact .nil ..
  | case3 mode start first rest kind more scan token =>
    rename_i induction
    have whole : first :: rest = token.text ++ rest.drop more := by
      rw [List.cons_append, List.take_append_drop]
    have shows : token.span.Shows source token.text := Span.Shows.taken same size more
    have stop_eq : start + Text.byteSize (first :: rest) =
        token.stop + Text.byteSize (rest.drop more) := by
      rw [whole, Text.byteSize_append, ← Nat.add_assoc]
      rfl
    have later := @induction (before ++ token.text) (by rw [same, whole]; simp)
      (by simp [token, stop, size, Text.byteSize_append])
    rw [stop_eq]
    have all := SpacedFrom.scanned shows (isMarked_of_scan scan) (Nat.le_add_right _ _) later
    rwa [← List.filter_append] at all

/-! ### Tokens that are cut out of a source -/

/-- Tokens stand in a source one behind the other, with only blank space between them. -/
structure Laid (source : List Char) (stop : Nat) (tokens : List Token) : Prop
    extends Spaced source stop tokens where
  /-- They stand in the source. -/
  placed : Placed source tokens

/-- The last tokens are laid as all tokens are. -/
theorem Laid.suffix {stop : Nat} {tokens rest : List Token} (laid : Laid source stop tokens)
    (suffix : rest <:+ tokens) : Laid source stop rest where
  marked token mem := laid.marked token (suffix.mem mem)
  gaps token next row := laid.gaps token next (row.trans suffix.isInfix)
  ends token mem := laid.ends token (suffix.mem mem)
  placed := laid.placed.suffix suffix

/-- The tokens after a token are laid as all tokens are. -/
theorem Laid.tail {stop : Nat} {token : Token} {tokens : List Token}
    (laid : Laid source stop (token :: tokens)) : Laid source stop tokens :=
  laid.suffix (List.suffix_cons _ _)

/-- The tokens of a text in a source are laid up to where the text ends. -/
theorem meaningful_laid {text before after : List Char} (same : source = before ++ text ++ after) :
    Laid source (Text.byteSize before + Text.byteSize text)
      (meaningful .text (Text.byteSize before) text).items where
  toSpaced := (meaningful_spacedFrom .text _ text same rfl).toSpaced
  placed := (meaningful_placedFrom .text _ text same rfl).placed

/-! ### Close tags -/

/-- The span of tokens in a row reaches from the first one to the last one. -/
theorem spanOf_eq {first : Token} {more : List Token}
    (ordered : (first :: more).Pairwise fun token later => token.stop ≤ later.start) :
    ∃ before final, first :: more = before ++ [final] ∧
      first.spanOf more = ⟨first.start, final.stop⟩ := by
  induction more using List.reverseRecOn with
  | nil => exact ⟨[], first, rfl, rfl⟩
  | append_singleton more last induction =>
    rw [← List.cons_append, List.pairwise_append] at ordered
    obtain ⟨inner, _, behind⟩ := ordered
    obtain ⟨before, final, row, span⟩ := induction inner
    have first_le : first.stop ≤ last.start := behind first List.mem_cons_self last (by simp)
    have final_le : final.stop ≤ last.start := behind final (by simp [row]) last (by simp)
    have first_size := first.start_le_stop
    have last_size := last.start_le_stop
    refine ⟨first :: more, last, rfl, ?_⟩
    have goesOn : first.spanOf (more ++ [last]) = (first.spanOf more).cover last.span := by
      simp [spanOf]
    rw [goesOn, span]
    exact Span.cover_eq (Nat.le_trans first_size first_le) (Nat.le_trans final_le last_size)

/-- A close tag reads as its mark, the key that is taken from it, blank space and a brace. -/
theorem Laid.closeTag {input : Input} {stop : Nat} {first last : Token} {tokens rest : List Token}
    {key : String} (laid : Laid input.source stop (first :: tokens))
    (kind : first.kind = .openClose) (closes : last.kind = .tagEnd)
    (taken : input.takeCloseKey tokens = .ok (key, last :: rest)) :
    ∃ blanks, (∀ c ∈ blanks, isTagSpace c = true) ∧
      Span.Shows input.source ⟨first.start, last.stop⟩
        ('{' :: '/' :: (key.toList ++ blanks ++ ['}'])) := by
  have mark := laid.marked first List.mem_cons_self
  have brace := laid.placed.spelled last
    (List.mem_cons_of_mem _ ((Segment.takeCloseKey_suffix taken).mem List.mem_cons_self))
  simp only [IsMarked, kind] at mark
  simp only [IsSpelled, closes] at brace
  obtain ⟨opened, more, rfl, rfl⟩ := Input.takeCloseKey_eq_ok taken
  have inside : ∀ token ∈ opened :: more, token.span.IsIn input.source := fun token mem =>
    laid.placed.tail.isIn (List.mem_append_left _ mem)
  have key_ordered := laid.placed.tail.ordered.sublist (List.sublist_append_left _ _)
  obtain ⟨before, final, same, span⟩ := spanOf_eq key_ordered
  have meet : opened.start = first.stop :=
    laid.placed.adjacent first opened ⟨[], more ++ last :: rest, by simp⟩ (by rw [kind]; rfl)
  obtain ⟨blanks, blank_shows, blank⟩ := laid.gaps final last
    ⟨first :: before, rest, by rw [same]; simp⟩
  have first_shows : Span.Shows input.source ⟨first.start, first.stop⟩ ['{', '/'] :=
    mark ▸ laid.placed.shown first List.mem_cons_self
  have key_shows : Span.Shows input.source ⟨first.stop, final.stop⟩
      ((opened.spanOf more).textIn input.source) := by
    obtain ⟨opened_inside, others⟩ := List.forall_mem_cons.mp inside
    have shows := (spanOf_isIn opened_inside others).shows
    rwa [show opened.spanOf more = ⟨first.stop, final.stop⟩ by rw [span, meet]] at shows ⊢
  have last_shows : Span.Shows input.source ⟨last.start, last.stop⟩ ['}'] :=
    brace ▸ laid.placed.shown last (by simp)
  refine ⟨blanks, blank, ?_⟩
  have whole := first_shows.join ((key_shows.join blank_shows).join last_shows)
  simpa using whole

end Token

end Dust
