import Dust.Proofs.Syntax.ByteLexing

/-!
# The lexer

The lexer hands out one token after the other. Outside of tags it looks for the next brace that
opens something before it hands out the raw text in front of it: what the brace opens waits until
it is asked for, and the cursor already stands behind it. A fault of the brace is found before the
raw text is handed out, so that the raw text never is. Apart from that text, the lexer hands out
the tokens of the stream that the text is cut into.
-/

namespace Dust

/-- Where the text is behind what a brace opens. -/
def Region.modeBehind? (region : Region) (kind : TokenKind) (opening : Span) : Option TokenMode :=
  if kind.opensTag then do
    let inside ← region.textFrom? opening.stop
    let named := kind = .openPartial ∧ inside.head?.any (· ≠ '"')
    some (if named then .partialName opening else .tag opening)
  else some .text

/-- A lexer between two tokens. -/
structure Lexer where
  /-- The source, with the byte where the lexer ends. -/
  region : Region
  /-- The byte where the lexer goes on. -/
  cursor : Nat
  /-- Where in a template the cursor is. -/
  mode : TokenMode
  /-- The token that was found behind the raw text that has been handed out. -/
  waiting : Option (TokenKind × Span)

/-- What a lexer that is asked for a token does. -/
inductive Lexer.Outcome where
  /-- It hands out a token. -/
  | token (token : TokenKind × Span) (later : Lexer)
  /-- There are no more tokens. -/
  | ended
  /-- It stops with a fault. -/
  | failed (fault : Located)

namespace Lexer

/-- The lexer of a region of a source. -/
def ofRegion (source : List Char) (region : Span) : Lexer :=
  ⟨⟨source, region.stop⟩, region.start, .text, none⟩

/-- What a cut at the cursor leads to. -/
def handOut (lexer : Lexer) : CutToken → Outcome
  | .error fault => .failed fault
  | .ok (kind, stop, mode) =>
    .token (kind, ⟨lexer.cursor, stop⟩) { lexer with cursor := stop, mode := mode }

/-- The next token outside of tags. What a brace behind raw text opens has to wait. -/
def nextText? (lexer : Lexer) : Option Outcome := do
  match ← lexer.region.seek? lexer.cursor with
  | none => some (lexer.handOut (.ok (.raw, lexer.region.stop, .text)))
  | some (_, .error fault) => some (.failed fault)
  | some (brace, .ok (kind, stop)) =>
    let found := (kind, (⟨brace, stop⟩ : Span))
    let mode ← lexer.region.modeBehind? kind ⟨brace, stop⟩
    let moved := { lexer with cursor := stop, mode := mode }
    if lexer.cursor = brace then some (.token found moved)
    else some (.token (.raw, ⟨lexer.cursor, brace⟩) { moved with waiting := some found })

/-- What the lexer does next. There is no result if a text is cut out where the source has none. -/
def next? (lexer : Lexer) : Option Outcome :=
  match lexer.waiting with
  | some token => some (.token token { lexer with waiting := none })
  | none =>
    if lexer.region.stop ≤ lexer.cursor then
      some (match lexer.mode.failureAtEnd with
        | some fault => .failed fault
        | none => .ended)
    else
      match lexer.mode with
      | .text => lexer.nextText?
      | .tag opening => (lexer.region.stepTag? opening lexer.cursor).map lexer.handOut
      | .partialName opening => (lexer.region.stepName? opening lexer.cursor).map lexer.handOut

/-- A lexer hands out these tokens and comes to an end. -/
inductive Runs : Lexer → Stream (TokenKind × Span) → Prop
  /-- There is no token. -/
  | ended {lexer : Lexer} (next : lexer.next? = some .ended) : Runs lexer ⟨[], none⟩
  /-- There is a fault. -/
  | failed {lexer : Lexer} {fault : Located} (next : lexer.next? = some (.failed fault)) :
    Runs lexer ⟨[], some fault⟩
  /-- A token comes first. -/
  | token {lexer later : Lexer} {token : TokenKind × Span} {rest : Stream (TokenKind × Span)}
    (next : lexer.next? = some (.token token later)) (goesOn : Runs later rest) :
    Runs lexer (rest.cons token)

/-- What a lexer hands out is told by what it does next. -/
theorem Runs.inversion {lexer : Lexer} {lexed : Stream (TokenKind × Span)}
    (runs : lexer.Runs lexed) :
    match lexer.next? with
    | none => False
    | some .ended => lexed = ⟨[], none⟩
    | some (.failed fault) => lexed = ⟨[], some fault⟩
    | some (.token handed later) => ∃ rest, later.Runs rest ∧ lexed = rest.cons handed := by
  cases runs with
  | ended next => rw [next]
  | failed next => rw [next]
  | token next goesOn =>
    rw [next]
    exact ⟨_, goesOn, rfl⟩

/-- A lexer hands out its tokens in one way. -/
theorem Runs.unique {lexer : Lexer} {first second : Stream (TokenKind × Span)}
    (runs : lexer.Runs first) (again : lexer.Runs second) : first = second := by
  induction runs generalizing second with
  | ended next =>
    have told := again.inversion
    rw [next] at told
    exact told.symm
  | failed next =>
    have told := again.inversion
    rw [next] at told
    exact told.symm
  | token next _ induction =>
    have told := again.inversion
    rw [next] at told
    obtain ⟨rest, goesOn, rfl⟩ := told
    rw [induction goesOn]

/-! ### Cutting at the cursor -/

variable {lexer : Lexer}

/-- No brace that opens something stands behind text that comes first. -/
def IsAtCut (lexer : Lexer) : Prop :=
  lexer.mode = .text → ∀ brace opened,
    lexer.region.seek? lexer.cursor = some (some (brace, opened)) → brace = lexer.cursor

/-- If no raw text stands before a brace, the next token is the one at the cursor. -/
theorem next?_of_isAtCut (idle : lexer.waiting = none)
    (inside : lexer.cursor < lexer.region.stop) (atCut : lexer.IsAtCut) :
    lexer.next? = (lexer.region.step? lexer.mode lexer.cursor).map lexer.handOut := by
  rw [next?, idle]
  simp only [if_neg (Nat.not_le.mpr inside)]
  cases mode : lexer.mode with
  | tag opening => rfl
  | partialName opening => rfl
  | text =>
    simp only [nextText?, Region.step?, Region.stepText?]
    cases sought : lexer.region.seek? lexer.cursor with
    | none => rfl
    | some found =>
      cases found with
      | none => rfl
      | some found =>
        obtain ⟨brace, opened⟩ := found
        obtain rfl := atCut mode brace opened sought
        cases opened with
        | error fault => simp [handOut]
        | ok found =>
          obtain ⟨kind, stop⟩ := found
          cases opens : kind.opensTag with
          | false => simp [Region.modeBehind?, opens, handOut]
          | true =>
            cases cut : lexer.region.textFrom? stop with
            | none => simp [Region.modeBehind?, opens, cut]
            | some text => simp [Region.modeBehind?, opens, cut, handOut]

/-- The lexer at another place of its region, with no token that waits. -/
def restart (lexer : Lexer) (cursor : Nat) (mode : TokenMode) : Lexer :=
  ⟨lexer.region, cursor, mode, none⟩

/-- The lexer stays in its region. -/
@[simp]
theorem restart_region (cursor : Nat) (mode : TokenMode) :
    (lexer.restart cursor mode).region = lexer.region := rfl

/-- The lexer goes on where it is told. -/
@[simp]
theorem restart_cursor (cursor : Nat) (mode : TokenMode) :
    (lexer.restart cursor mode).cursor = cursor := rfl

/-- Text before a brace that opens something is raw, and a search that begins at the brace finds
the brace. -/
theorem raw_of_firstOpened {byte brace : Nat} {first : Char} {rest : List Char}
    {opened : Except Located (TokenKind × Nat)}
    (found : Region.firstOpened byte (first :: rest) = some (brace, opened))
    (later : brace ≠ byte) :
    scanText first rest = .token .raw (rawLength rest) ∧
      brace = byte + Text.byteSize (first :: rest.take (rawLength rest)) ∧
      Region.firstOpened brace (rest.drop (rawLength rest)) = some (brace, opened) := by
  by_cases opens : first = '{' ∧ Opening.ofText rest ≠ .text
  · obtain ⟨rfl, opens⟩ := opens
    simp only [Region.firstOpened, rawLength_of_opens opens, List.drop_zero, List.take_zero,
      Text.byteSize_nil, Nat.add_zero] at found
    split at found <;> cases found <;> exact absurd rfl later
  · have raw : rawLength (first :: rest) = rawLength rest + 1 := by
      rw [rawLength, if_neg opens]
    refine ⟨Region.scanText_raw opens, ?_⟩
    rcases drop_rawLength (first :: rest) with behind | ⟨behind, at_brace, opens⟩
    · simp [Region.firstOpened, behind] at found
    · have none_before : rawLength ('{' :: behind) = 0 := rawLength_of_opens opens
      simp only [Region.firstOpened, at_brace] at found
      rw [raw, List.drop_succ_cons] at at_brace
      rw [at_brace]
      simp only [Region.firstOpened, none_before, List.drop_zero, List.take_zero,
        Text.byteSize_nil, Nat.add_zero]
      rw [raw, List.take_succ_cons] at found
      split at found
      · cases found
      · cases found
        exact ⟨rfl, rfl⟩
      · cases found
        exact ⟨rfl, rfl⟩

/-- Outside of tags the next token is looked for, if none waits. -/
theorem next?_text (idle : lexer.waiting = none) (inText : lexer.mode = .text)
    (inside : lexer.cursor < lexer.region.stop) : lexer.next? = lexer.nextText? := by
  rw [next?, idle, inText]
  exact if_neg (Nat.not_le.mpr inside)

/-- Raw text before a brace is handed out, and then what is handed out from the brace on, unless
the brace is at fault. -/
theorem Runs.before_brace {brace : Nat} {opened : Except Located (TokenKind × Nat)}
    {lexed : Stream (TokenKind × Span)} (idle : lexer.waiting = none) (inText : lexer.mode = .text)
    (found : lexer.region.seek? lexer.cursor = some (some (brace, opened)))
    (again : lexer.region.seek? brace = some (some (brace, opened)))
    (later : lexer.cursor < brace) (inside : brace < lexer.region.stop)
    (runs : (lexer.restart brace .text).Runs lexed) :
    (∃ fault, lexed = ⟨[], some fault⟩ ∧ lexer.Runs lexed) ∨
      lexer.Runs (lexed.cons (.raw, ⟨lexer.cursor, brace⟩)) := by
  have next := next?_text idle inText (Nat.lt_trans later inside)
  have next_brace := @next?_text (lexer.restart brace .text) rfl rfl inside
  have told := runs.inversion
  simp only [nextText?, found, Option.bind_eq_bind, Option.bind_some] at next
  simp only [nextText?, restart_region, restart_cursor, again, Option.bind_eq_bind,
    Option.bind_some] at next_brace
  rw [next_brace] at told
  cases opened with
  | error fault => exact .inl ⟨fault, told, told ▸ .failed next⟩
  | ok opened =>
    obtain ⟨kind, stop⟩ := opened
    dsimp only at next told
    cases behind : lexer.region.modeBehind? kind ⟨brace, stop⟩ with
    | none =>
      rw [behind] at told
      exact told.elim
    | some mode =>
      rw [behind, Option.bind_some] at next told
      rw [if_neg (Nat.ne_of_lt later)] at next
      simp only [↓reduceIte] at told
      obtain ⟨rest, goesOn, rfl⟩ := told
      exact .inr (.token next (.token rfl goesOn))

/-! ### Tokens of a region -/

variable {region : Region} {mode : TokenMode} {byte : Nat} {text : List Char}
  {first : Char} {rest : List Char}

/-- If raw text stands before a brace, it is the next token by characters, and the search from the
brace on finds the brace. -/
theorem raw_of_not_isAtCut (holds : region.Holds byte (first :: rest))
    (before : ¬ IsAtCut ⟨region, byte, mode, none⟩) :
    ∃ brace opened, mode = .text ∧ scanText first rest = .token .raw (rawLength rest) ∧
      region.seek? byte = some (some (brace, opened)) ∧
      region.seek? brace = some (some (brace, opened)) ∧ brace < region.stop ∧
      brace = byte + Text.byteSize (first :: rest.take (rawLength rest)) := by
  simp only [IsAtCut, Classical.not_imp, not_forall] at before
  obtain ⟨inText, brace, opened, found, later⟩ := before
  have sought := found
  rw [Region.seek?_eq holds, Option.some.injEq] at sought
  obtain ⟨scan, place, again⟩ := raw_of_firstOpened sought later
  have behind := holds.after (rawLength rest)
  rw [← place] at behind
  have inside : brace < region.stop := by
    cases left : rest.drop (rawLength rest) with
    | nil =>
      rw [left] at again
      cases again
    | cons next last =>
      rw [left] at behind
      exact behind.lt
  exact ⟨brace, opened, inText, scan, found, by rw [Region.seek?_eq behind, again], inside, place⟩

/-- What a lexer hands out of a text that is cut into a stream: all tokens if there is no fault, and
first ones before a fault. -/
structure Reads (lexed : Stream (TokenKind × Span)) (stream : Stream Token) : Prop where
  /-- The tokens are those that the text is cut into. -/
  items : lexed.items <+: stream.items.map Region.shape
  /-- None is left out if there is no fault. -/
  all : stream.failure = none → lexed.items = stream.items.map Region.shape
  /-- The fault is that of the text. -/
  failure : lexed.failure = stream.failure

/-- One more token in front is handed out first. -/
theorem Reads.cons {lexed : Stream (TokenKind × Span)} {stream : Stream Token}
    (reads : Reads lexed stream) (token : Token) :
    Reads (lexed.cons (Region.shape token)) (stream.cons token) where
  items := List.cons_prefix_cons.mpr ⟨rfl, reads.items⟩
  all sound := congrArg (Region.shape token :: ·) (reads.all sound)
  failure := reads.failure

/-- The lexer comes to an end, and hands out the tokens that the text is cut into. No text is cut
out where there is none. -/
theorem exists_runs (holds : region.Holds byte text) (isAt : Region.IsAt mode text) :
    ∃ lexed, Runs ⟨region, byte, mode, none⟩ lexed ∧ Reads lexed (Token.stream mode byte text) := by
  fun_induction Token.stream mode byte text with
  | case1 mode byte =>
    have stop : region.stop ≤ byte := Nat.le_of_eq holds.stop
    have next : next? ⟨region, byte, mode, none⟩ = some (match mode.failureAtEnd with
        | some fault => .failed fault
        | none => .ended) := by
      simp only [next?, if_pos stop]
    cases ends : mode.failureAtEnd with
    | none =>
      rw [ends] at next
      exact ⟨_, .ended next, List.prefix_rfl, fun _ => rfl, rfl⟩
    | some fault =>
      rw [ends] at next
      exact ⟨_, .failed next, List.prefix_rfl, fun _ => rfl, rfl⟩
  | case2 mode byte first rest fault more scan =>
    have atCut : IsAtCut ⟨region, byte, mode, none⟩ := by
      by_contra before
      obtain ⟨_, _, rfl, raw, _⟩ := raw_of_not_isAtCut holds before
      cases scan.symm.trans raw
    have next := next?_of_isAtCut rfl holds.lt atCut
    rw [Region.step?_eq mode holds isAt, scan] at next
    exact ⟨_, .failed next, List.prefix_rfl, fun _ => rfl, rfl⟩
  | case3 mode byte first rest kind more scan token =>
    rename_i induction
    obtain ⟨lexed, runs, reads⟩ := induction (holds.after more) (Region.isAt_after scan)
    by_cases atCut : IsAtCut ⟨region, byte, mode, none⟩
    · have next := next?_of_isAtCut rfl holds.lt atCut
      rw [Region.step?_eq mode holds isAt, scan] at next
      exact ⟨_, .token next runs, reads.cons token⟩
    · -- What the brace opens is found now, and cut off from the stream only behind the raw text.
      obtain ⟨brace, opened, rfl, raw, found, again, inside, place⟩ :=
        raw_of_not_isAtCut holds atCut
      cases scan.symm.trans raw
      subst place
      have later : byte < token.stop := Text.lt_add_byteSize_cons ..
      rcases @Runs.before_brace ⟨region, byte, .text, none⟩ token.stop opened lexed rfl rfl found
        again later inside runs with ⟨fault, rfl, failed⟩ | goesOn
      · refine ⟨_, failed, List.nil_prefix, fun sound => ?_, reads.failure⟩
        cases reads.failure.trans sound
      · exact ⟨_, goesOn, reads.cons token⟩

end Lexer

end Dust
