import Dust.Proofs.Syntax.Lexing

/-!
# Places of tokens

The text of every token stands in the source at its span, and the tokens stand one behind the other.
A span that covers two of them begins with the text of the first and ends with the text of the last.
A token that opens a tag is directly followed by another token, which tells that a name stands right
behind the mark of its tag.
-/

namespace Dust

/-! ### Texts in a source -/

namespace Text

/-- A text without bytes has no characters. -/
theorem eq_nil_of_byteSize {text : List Char} (empty : byteSize text = 0) : text = [] := by
  cases text with
  | nil => rfl
  | cons c rest =>
    have positive := c.utf8Size_pos
    rw [byteSize_cons] at empty
    omega

/-- Of two texts that a source begins with, the one with fewer bytes begins the other. -/
theorem prefix_of_byteSize_le {source front back : List Char} (first : front <+: source)
    (second : back <+: source) (le : byteSize front ≤ byteSize back) : front <+: back := by
  rcases List.prefix_or_prefix_of_prefix first second with within | within
  · exact within
  · obtain ⟨more, rfl⟩ := within
    rw [byteSize_append] at le
    rw [@eq_nil_of_byteSize more (by omega), List.append_nil]

end Text

namespace Span

variable {source : List Char}

/-- A text stands in a source at a span. -/
def Shows (source : List Char) (span : Span) (text : List Char) : Prop :=
  ∃ before after, source = before ++ text ++ after ∧
    span = ⟨Text.byteSize before, Text.byteSize (before ++ text)⟩

/-- A number of bytes is the size of a text that the source begins with. -/
def IsCut (source : List Char) (bytes : Nat) : Prop :=
  ∃ before, before <+: source ∧ Text.byteSize before = bytes

/-- A span lies in a source and cuts no character. -/
structure IsIn (source : List Char) (span : Span) : Prop where
  /-- It begins between two characters. -/
  start : IsCut source span.start
  /-- It ends between two characters. -/
  stop : IsCut source span.stop
  /-- It does not end before it begins. -/
  le : span.start ≤ span.stop

/-- The text at a span is what is cut out there. -/
theorem Shows.slice? {span : Span} {text : List Char} (shows : span.Shows source text) :
    Text.slice? source span.start span.stop = some text := by
  obtain ⟨before, after, rfl, rfl⟩ := shows
  have size : Text.byteSize (before ++ text) - Text.byteSize before = Text.byteSize text := by
    rw [Text.byteSize_append]
    omega
  have le : Text.byteSize before ≤ Text.byteSize (before ++ text) := by
    rw [Text.byteSize_append]
    omega
  simp [Text.slice?, le, size, List.append_assoc, Text.splitBytes?_append]

/-- Where a text stands is in the source. -/
theorem Shows.isIn {span : Span} {text : List Char} (shows : span.Shows source text) :
    span.IsIn source := by
  obtain ⟨before, after, rfl, rfl⟩ := shows
  exact ⟨⟨before, by simp, rfl⟩, ⟨before ++ text, by simp, rfl⟩, by simp [Text.byteSize_append]⟩

/-- A span in the source is not longer than it. -/
theorem IsIn.stop_le {span : Span} (inside : span.IsIn source) :
    span.stop ≤ Text.byteSize source := by
  obtain ⟨through, ⟨after, rfl⟩, size⟩ := inside.stop
  rw [Text.byteSize_append]
  omega

/-- A span that covers two spans in the source is in it. -/
theorem IsIn.cover {first last : Span} (opened : first.IsIn source) (closed : last.IsIn source) :
    (first.cover last).IsIn source where
  start := by
    simp only [Span.cover, Nat.min_def]
    split
    · exact opened.start
    · exact closed.start
  stop := by
    simp only [Span.cover, Nat.max_def]
    split
    · exact closed.stop
    · exact opened.stop
  le := by
    have := opened.le
    simp only [Span.cover]
    omega

/-- A span that neither begins nor ends behind another one covers it up to where that one ends. -/
theorem cover_eq {first last : Span} (start_le : first.start ≤ last.start)
    (stop_le : first.stop ≤ last.stop) : first.cover last = ⟨first.start, last.stop⟩ := by
  rw [cover, Nat.min_eq_left start_le, Nat.max_eq_right stop_le]

/-- Two texts that stand directly one behind the other are one text. -/
theorem Shows.append {first next : Span} {front back : List Char}
    (opened : first.Shows source front) (goesOn : next.Shows source back)
    (meet : next.start = first.stop) : (first.cover next).Shows source (front ++ back) := by
  obtain ⟨before, after, same, rfl⟩ := opened
  obtain ⟨before', after', same', rfl⟩ := goesOn
  simp only at meet
  obtain ⟨none, begins⟩ := @Text.prefix_of_byteSize_le source _ _
    ⟨back ++ after', by rw [same', List.append_assoc]⟩ ⟨after, same.symm⟩ (Nat.le_of_eq meet)
  rw [← begins, Text.byteSize_append] at meet
  rw [@Text.eq_nil_of_byteSize none (by omega), List.append_nil] at begins
  subst begins
  refine ⟨before, after', by rw [same']; simp, ?_⟩
  simp only [Span.cover, Span.mk.injEq, Text.byteSize_append]
  omega

/-- A span from where one text begins to where another one ends begins with the one and ends with
the other. -/
theorem Shows.cover {first last : Span} {front back : List Char}
    (opened : first.Shows source front) (closed : last.Shows source back)
    (start_le : first.start ≤ last.start) (stop_le : first.stop ≤ last.stop) :
    ∃ text, (first.cover last).Shows source text ∧ front <+: text ∧ back <:+ text := by
  obtain ⟨before, after, same, rfl⟩ := opened
  obtain ⟨before', after', same', rfl⟩ := closed
  simp only at start_le stop_le
  have begins : before <+: before' := @Text.prefix_of_byteSize_le source _ _
    ⟨front ++ after, by rw [same, List.append_assoc]⟩
    ⟨back ++ after', by rw [same', List.append_assoc]⟩ start_le
  have ends : before ++ front <+: before' ++ back :=
    Text.prefix_of_byteSize_le ⟨after, same.symm⟩ ⟨after', same'.symm⟩ stop_le
  obtain ⟨middle, rfl⟩ := begins
  rw [List.append_assoc, List.prefix_append_right_inj] at ends
  refine ⟨middle ++ back, ⟨before, after', by simp [same'], ?_⟩, ends, List.suffix_append _ _⟩
  rw [List.append_assoc] at stop_le
  simp only [Span.cover, Nat.min_eq_left start_le, List.append_assoc, Nat.max_eq_right stop_le]

/-- The first characters of a text in a source stand in the source where the text begins. -/
theorem Shows.taken {start : Nat} {first : Char} {rest before after : List Char}
    (same : source = before ++ first :: rest ++ after) (size : start = Text.byteSize before)
    (more : Nat) :
    Span.Shows source ⟨start, start + Text.byteSize (first :: rest.take more)⟩
      (first :: rest.take more) := by
  refine ⟨before, rest.drop more ++ after, ?_, by rw [size, Text.byteSize_append]⟩
  rw [same]
  simp [← List.append_assoc (rest.take more), List.take_append_drop]

end Span

/-! ### Tokens in a source -/

/-- A token does not stop before it begins. -/
theorem Token.start_le_stop (token : Token) : token.start ≤ token.stop :=
  Nat.le_add_right _ _

/-- What is known of the text of a token by what the token is. -/
def Token.IsSpelled (token : Token) : Prop :=
  match token.kind with
  | .openHelper => token.text = ['{', '@']
  | .openPartial => token.text = ['{', '>']
  | .tagEnd => token.text = ['}']
  | .selfClose => token.text = ['/', '}']
  | .string => ∃ rest, token.text = '"' :: rest
  | _ => True

/-- Tokens stand in a source, one behind the other. -/
structure Token.Placed (source : List Char) (tokens : List Token) : Prop where
  /-- The text of a token stands at its span. -/
  shown : ∀ token ∈ tokens, token.span.Shows source token.text
  /-- The text of a token is what its kind tells. -/
  spelled : ∀ token ∈ tokens, token.IsSpelled
  /-- A token begins where the ones before it have ended. -/
  ordered : tokens.Pairwise fun token later => token.stop ≤ later.start
  /-- What opens a tag is directly followed by another token. -/
  adjacent : ∀ token next, [token, next] <:+: tokens → token.kind.opensTag = true →
    next.start = token.stop

namespace Token

variable {source : List Char}

/-- The last tokens are placed as all tokens are. -/
theorem Placed.suffix {tokens rest : List Token} (placed : Placed source tokens)
    (suffix : rest <:+ tokens) : Placed source rest where
  shown token mem := placed.shown token (suffix.mem mem)
  spelled token mem := placed.spelled token (suffix.mem mem)
  ordered := placed.ordered.sublist suffix.sublist
  adjacent token next row := placed.adjacent token next (row.trans suffix.isInfix)

/-- A brace that begins a tag is followed by what a tag can go on with. -/
theorem beginsTag_of_opensTag {rest : List Char} {kind : TokenKind} {more : Nat}
    (opening : Opening.ofText rest = .token kind more) (opens : kind.opensTag = true) :
    beginsTag (rest.drop more) = true := by
  cases Opening.begins_of_ofText opening with
  | comment | rawText | special => cases opens
  | tag named goesOn => exact goesOn
  | reference word closes =>
    simp only [List.drop_zero, beginsTag, Bool.or_eq_true, decide_eq_true_eq]
    exact .inl word

/-- A token that begins with a brace is spelled as its kind tells. -/
theorem isSpelled_of_opening {rest : List Char} {kind : TokenKind} {more start : Nat}
    (opening : Opening.ofText rest = .token kind more) :
    IsSpelled ⟨kind, '{' :: rest.take more, start⟩ := by
  cases Opening.begins_of_ofText opening with
  | comment | rawText | special | reference => trivial
  | tag named goesOn =>
    unfold TokenKind.ofSigil? at named
    split at named <;> cases named <;> trivial

/-- A token in a tag is spelled as its kind tells. -/
theorem isSpelled_of_scanTag {first : Char} {rest : List Char} {kind : TokenKind}
    {more start : Nat} (scan : scanTag first rest = .token kind more) :
    IsSpelled ⟨kind, first :: rest.take more, start⟩ := by
  cases scansTag_of_scanTag scan with
  | tagEnd | selfClose => rfl
  | string closes => exact ⟨_, rfl⟩
  | _ => trivial

/-- The token that is scanned is spelled as its kind tells. -/
theorem isSpelled_of_scan {mode : TokenMode} {first : Char} {rest : List Char} {kind : TokenKind}
    {more start : Nat} (scan : mode.scan first rest = .token kind more) :
    IsSpelled ⟨kind, first :: rest.take more, start⟩ := by
  cases TokenMode.scans_of_scan scan with
  | raw | partialName => trivial
  | opened opens => exact isSpelled_of_opening opens
  | inTag scan => exact isSpelled_of_scanTag scan

/-- A token directly behind the opening of a tag is not blank. -/
theorem solid_of_beginsTag {mode : TokenMode} {first : Char} {rest : List Char} {kind : TokenKind}
    {more : Nat} (inTag : mode ≠ .text) (begins : beginsTag (first :: rest) = true)
    (scan : mode.scan first rest = .token kind more) : kind ≠ .whitespace := by
  cases mode with
  | text => exact absurd rfl inTag
  | partialName opening => cases scan; decide
  | tag opening =>
    simp only [beginsTag, Bool.or_eq_true, decide_eq_true_eq] at begins
    rcases begins with (word | rfl) | rfl
    · rw [TokenMode.scan, scanTag_word word] at scan
      cases scan
      decide
    · cases scan
      decide
    · simp only [TokenMode.scan, scanTag] at scan
      split at scan <;> cases scan
      decide

/-- No token in a tag opens a tag. -/
theorem not_opensTag_of_scanTag {first : Char} {rest : List Char} {kind : TokenKind} {more : Nat}
    (scan : scanTag first rest = .token kind more) : kind.opensTag = false := by
  cases scansTag_of_scanTag scan <;> rfl

/-- What opens a tag is followed by what a tag can go on with. -/
theorem opens_of_scan {mode : TokenMode} {first : Char} {rest : List Char} {kind : TokenKind}
    {more start : Nat} (scan : mode.scan first rest = .token kind more)
    (opens : kind.opensTag = true) :
    mode.after ⟨kind, first :: rest.take more, start⟩ (rest.drop more) ≠ .text ∧
      beginsTag (rest.drop more) = true := by
  cases TokenMode.scans_of_scan scan with
  | raw | partialName => cases opens
  | opened opening =>
    refine ⟨?_, beginsTag_of_opensTag opening opens⟩
    simp only [TokenMode.after, opens, if_true]
    split <;> simp
  | inTag scan =>
    rw [not_opensTag_of_scanTag scan] at opens
    cases opens

/-- The tokens that a text is cut into stand in the source from where the text begins on. -/
structure PlacedFrom (source : List Char) (mode : TokenMode) (start : Nat) (text : List Char)
    (tokens : List Token) : Prop where
  /-- They stand in the source. -/
  placed : Placed source tokens
  /-- They do not stand before the text. -/
  behind : ∀ token ∈ tokens, start ≤ token.start
  /-- The first one begins with the text, if an opening stands before it. -/
  begins : mode ≠ .text → beginsTag text = true → ∀ token ∈ tokens.head?, token.start = start

/-- No tokens stand anywhere. -/
theorem PlacedFrom.nil (mode : TokenMode) (start : Nat) (text : List Char) :
    PlacedFrom source mode start text [] where
  placed := ⟨by simp, by simp, by simp, by simp⟩
  behind := by simp
  begins := by simp

/-- A token that is scanned stands before the tokens after it. -/
theorem PlacedFrom.scanned {mode : TokenMode} {first : Char} {rest : List Char} {kind : TokenKind}
    {more start : Nat} {tokens : List Token} {token : Token}
    (scan : mode.scan first rest = .token kind more)
    (cut : token = ⟨kind, first :: rest.take more, start⟩)
    (shows : token.span.Shows source token.text)
    (later : PlacedFrom source (mode.after token (rest.drop more)) token.stop (rest.drop more)
      tokens) :
    PlacedFrom source mode start (first :: rest)
      ([token].filter (·.kind ≠ .whitespace) ++ tokens) := by
  have start_eq : token.start = start := by rw [cut]
  have le_stop : start ≤ token.stop := by
    rw [← start_eq]
    exact token.start_le_stop
  by_cases blank : token.kind = .whitespace
  · have dropped : [token].filter (·.kind ≠ .whitespace) = [] := by simp [blank]
    rw [dropped, List.nil_append]
    refine ⟨later.placed, fun other mem => Nat.le_trans le_stop (later.behind other mem), ?_⟩
    intro inTag begins
    exact absurd (by simpa [cut] using blank) (solid_of_beginsTag inTag begins scan)
  · have kept : [token].filter (·.kind ≠ .whitespace) = [token] := by simp [blank]
    rw [kept, List.singleton_append]
    refine ⟨⟨?_, ?_, ?_, ?_⟩, ?_, ?_⟩
    · simpa using ⟨shows, later.placed.shown⟩
    · simpa using ⟨cut ▸ isSpelled_of_scan scan, later.placed.spelled⟩
    · exact List.pairwise_cons.mpr ⟨later.behind, later.placed.ordered⟩
    · intro before next row opens
      rcases List.infix_cons_iff.mp row with row | row
      · obtain ⟨same, others, within⟩ := List.cons_prefix_cons.mp row
        subst same within
        obtain ⟨inTag, begins⟩ := @opens_of_scan _ _ _ _ _ start scan (by simpa [cut] using opens)
        rw [← cut] at inTag
        exact later.begins inTag begins next rfl
      · exact later.placed.adjacent before next row opens
    · simpa [start_eq] using fun other mem => Nat.le_trans le_stop (later.behind other mem)
    · simpa using fun _ _ => start_eq

/-- The tokens of a text stand in every source that the text is cut out of. -/
theorem meaningful_placedFrom (mode : TokenMode) (start : Nat) (text : List Char)
    {before after : List Char} (same : source = before ++ text ++ after)
    (size : start = Text.byteSize before) :
    PlacedFrom source mode start text (meaningful mode start text).items := by
  unfold meaningful Stream.withoutBlanks
  fun_induction Token.stream mode start text generalizing before with
  | case1 mode start => exact .nil ..
  | case2 mode start first rest fault more scan => exact .nil ..
  | case3 mode start first rest kind more scan token =>
    rename_i induction
    have whole : first :: rest = token.text ++ rest.drop more := by
      rw [List.cons_append, List.take_append_drop]
    have shows : token.span.Shows source token.text := Span.Shows.taken same size more
    have later := @induction (before ++ token.text) (by rw [same, whole]; simp)
      (by simp [token, stop, size, Text.byteSize_append])
    have all := PlacedFrom.scanned scan rfl shows later
    rwa [← List.filter_append] at all

end Token

end Dust
