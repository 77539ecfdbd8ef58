import Dust.Proofs.Syntax.PathReading

/-!
# Reading moved tokens

The reader of paths looks at the kinds of tokens and at which of them stand next to each other. So
it takes the same tokens for the same path wherever they stand, whatever follows them unless it is a
word, and inside of whatever other path. Only the places in the path are moved.
-/

namespace Dust

/-! ## Moving places -/

/-- The token some bytes further on. -/
def Token.move (bytes : Nat) (token : Token) : Token :=
  { token with start := token.start + bytes }

/-- The span some bytes further on. -/
def Span.move (bytes : Nat) (span : Span) : Span :=
  ⟨span.start + bytes, span.stop + bytes⟩

mutual

/-- The path some bytes further on. -/
def Path.move (bytes : Nat) : Path → Path
  | ⟨anchor, keys, span⟩ => ⟨anchor, Path.moveKeys bytes keys, span.move bytes⟩

/-- The key some bytes further on. -/
def Key.move (bytes : Nat) : Key → Key
  | .path path => .path (path.move bytes)
  | key => key

/-- The keys some bytes further on. -/
def Path.moveKeys (bytes : Nat) : List Key → List Key
  | [] => []
  | key :: rest => key.move bytes :: Path.moveKeys bytes rest

end

section Moving

variable {bytes : Nat}

/-- A token that is moved stops further on. -/
theorem Token.stop_move (token : Token) : (token.move bytes).stop = token.stop + bytes := by
  simp only [Token.stop, Token.move]
  omega

/-- A token that is moved has its span further on. -/
theorem Token.span_move (token : Token) : (token.move bytes).span = token.span.move bytes := by
  rw [Token.span, Token.stop_move]
  rfl

/-- A token is moved to where a path stops that is moved exactly if it stands where the path
stops. -/
theorem Token.start_move_iff (token : Token) (path : Path) :
    (token.move bytes).start = (path.move bytes).span.stop ↔ token.start = path.span.stop := by
  cases path
  rw [Path.move]
  simp only [Token.move, Span.move]
  omega

/-- A token that is moved stands for the same position. -/
theorem Token.index_move {token : Token} {key : Key} (found : token.index = .ok key) :
    (token.move bytes).index = .ok (key.move bytes) := by
  obtain ⟨index, spelled, rfl⟩ := Token.index_eq_ok found
  simp only [Token.index, Token.move, spelled]
  rfl

/-- Spans that are moved cover what they cover further on. -/
theorem Span.cover_move (a b : Span) : (a.move bytes).cover (b.move bytes) =
    (a.cover b).move bytes := by
  simp only [Span.cover, Span.move, Nat.add_min_add_right, Nat.add_max_add_right]

/-- The span of a path that is moved. -/
theorem Path.span_move (path : Path) : (path.move bytes).span = path.span.move bytes := by
  cases path
  rw [Path.move]

/-- Keys in a row are moved one after the other. -/
theorem Path.moveKeys_append (keys others : List Key) :
    Path.moveKeys bytes (keys ++ others) = Path.moveKeys bytes keys ++ Path.moveKeys bytes others := by
  induction keys with
  | nil => rfl
  | cons key rest induction => rw [List.cons_append, moveKeys, moveKeys, induction]; rfl

/-- A path with one more key is moved together with the key. -/
theorem Path.extend_move (path : Path) (key : Key) (span : Span) :
    (path.move bytes).extend (key.move bytes) (span.move bytes) =
      (path.extend key span).move bytes := by
  cases path
  simp only [Path.extend, Path.move, Path.moveKeys_append, Path.moveKeys, Span.cover_move]

mutual

/-- A path stays where it is if it is not moved. -/
theorem Path.move_zero : ∀ path : Path, path.move 0 = path
  | ⟨_, keys, _⟩ => by rw [Path.move, Path.moveKeys_zero keys]; rfl

/-- A key stays where it is if it is not moved. -/
theorem Key.move_zero : ∀ key : Key, key.move 0 = key
  | .name _ | .index _ => rfl
  | .path path => by rw [Key.move, Path.move_zero path]

/-- Keys stay where they are if they are not moved. -/
theorem Path.moveKeys_zero : ∀ keys : List Key, Path.moveKeys 0 keys = keys
  | [] => rfl
  | key :: rest => by rw [Path.moveKeys, Key.move_zero key, Path.moveKeys_zero rest]

end

end Moving

/-! ## Reading moved tokens -/

/-- The kinds of tokens that paths are made of. -/
def TokenKind.inPath : TokenKind → Bool
  | identifier | number | dot | openBracket | closeBracket => true
  | _ => false

/-- A reader takes the first ones of some tokens for a path and leaves the rest. Moved by any number
of bytes, and inside of any other paths, it takes these tokens for the moved path, unless a word
follows. How the reader reads is given by the distance and by the paths around. -/
structure Path.Replays (tokens rest : List Token) (path : Path) (used : List Token)
    (reads : Nat → Input → List Path → List Token → Except Located (Path × List Token)) : Prop where
  /-- They are the first of the tokens. -/
  split : tokens = used ++ rest
  /-- They are of kinds that paths are made of. -/
  inPath : ∀ token ∈ used, token.kind.inPath = true
  /-- They are taken wherever they stand. -/
  read : ∀ (bytes : Nat) (input : Input) (around : List Path) (later : List Token),
    (∀ token ∈ later.head?, token.kind ≠ .identifier) →
      reads bytes input around (used.map (Token.move bytes) ++ later) =
        Path.readKeys input around (path.move bytes) later

section Replaying

variable {tokens rest used : List Token} {path : Path}
  {reads readsFirst : Nat → Input → List Path → List Token → Except Located (Path × List Token)}

/-- Tokens that are taken behind others are taken together with them. -/
theorem Path.Replays.behind (replays : Path.Replays tokens rest path used reads)
    (front : List Token) (inPath : ∀ token ∈ front, token.kind.inPath = true)
    (step : ∀ bytes input around later, (∀ token ∈ later.head?, token.kind ≠ .identifier) →
      readsFirst bytes input around
          (front.map (Token.move bytes) ++ (used.map (Token.move bytes) ++ later)) =
        reads bytes input around (used.map (Token.move bytes) ++ later)) :
    Path.Replays (front ++ tokens) rest path (front ++ used) readsFirst where
  split := by rw [replays.split, List.append_assoc]
  inPath token mem := by
    rcases List.mem_append.mp mem with mem | mem
    · exact inPath token mem
    · exact replays.inPath token mem
  read bytes input around later noWord := by
    rw [List.map_append, List.append_assoc, step bytes input around later noWord,
      replays.read bytes input around later noWord]

/-- Where tokens are moved that are taken, a word comes first only if it comes first among them. -/
theorem Path.Replays.first_word (replays : Path.Replays tokens rest path used reads)
    {bytes : Nat} {later : List Token} (noWord : ∀ token ∈ later.head?, token.kind ≠ .identifier)
    {word : Token} (first : word ∈ (used.map (Token.move bytes) ++ later).head?)
    (isWord : word.kind = .identifier) : ∃ token ∈ tokens.head?, token.move bytes = word := by
  cases used with
  | nil => exact absurd isWord (noWord word first)
  | cons token more =>
    cases first
    exact ⟨token, by rw [replays.split]; rfl, rfl⟩

end Replaying

variable {input : Input} {path : Path} {rest : List Token}

mutual

/-- A path that is read from its beginning in steps is read so wherever its tokens stand. -/
theorem Path.ReadsStart.replays : ∀ {outer : List Path} {tokens : List Token},
    Path.ReadsStart path rest outer tokens →
      ∃ first used, Path.Replays tokens rest path (first :: used) fun bytes input around =>
        Path.readStart input (outer.map (Path.move bytes) ++ around)
  | _, _, @ReadsStart.name _ _ _ token _ word more => by
    obtain ⟨used, replays⟩ := more.replays
    refine ⟨_, _, replays.behind [token] (by simp [word, TokenKind.inPath])
      fun bytes _ _ _ _ => ?_⟩
    have moved : (token.move bytes).kind = .identifier := word
    rw [List.map_singleton, List.singleton_append, readStart_of_word moved, Token.span_move]
    rfl
  | _, _, @ReadsStart.current _ _ _ token _ dot apart more => by
    obtain ⟨used, replays⟩ := more.replays
    refine ⟨_, _, replays.behind [token] (by simp [dot, TokenKind.inPath])
      fun bytes _ _ _ noWord => ?_⟩
    have moved : (token.move bytes).kind = .dot := dot
    rw [List.map_singleton, List.singleton_append, readStart_of_dot moved, Token.span_move]
    · rfl
    · rintro word first ⟨isWord, adjacent⟩
      obtain ⟨next, mem, rfl⟩ := replays.first_word noWord first isWord
      rw [Token.stop_move] at adjacent
      exact apart next mem ⟨isWord, Nat.add_right_cancel adjacent⟩
  | _, _, @ReadsStart.currentName _ _ _ token next _ dot word adjacent more => by
    obtain ⟨used, replays⟩ := more.replays
    refine ⟨_, _, replays.behind [token, next] (by simp [dot, word, TokenKind.inPath])
      fun bytes _ _ _ _ => ?_⟩
    have moved : (token.move bytes).kind = .dot := dot
    have movedWord : (next.move bytes).kind = .identifier := word
    have movedNext : (next.move bytes).start = (token.move bytes).stop := by
      rw [Token.stop_move, ← adjacent]
      rfl
    rw [List.map_cons, List.map_singleton, List.cons_append, List.singleton_append,
      readStart_of_dotWord moved movedWord movedNext, Token.span_move, Token.span_move,
      Span.cover_move]
    rfl

/-- A path the rest of which is read in steps is read so wherever the tokens of the rest stand. -/
theorem Path.ReadsKeys.replays : ∀ {outer : List Path} {before : Path} {tokens : List Token},
    Path.ReadsKeys path rest outer before tokens →
      ∃ used, Path.Replays tokens rest path used fun bytes input around =>
        Path.readKeys input (outer.map (Path.move bytes) ++ around) (before.move bytes)
  | _, _, _, .complete => ⟨[], rfl, by simp, fun _ _ _ _ _ => rfl⟩
  | _, before, _, @ReadsKeys.name _ _ _ _ dot key _ opens word more => by
    obtain ⟨used, replays⟩ := more.replays
    refine ⟨_, replays.behind [dot, key] (by simp [opens.1, word, TokenKind.inPath])
      fun bytes _ _ _ _ => ?_⟩
    have movedDot : (dot.move bytes).kind = .dot := opens.1
    have adjacent := (@Token.start_move_iff bytes dot before).mpr opens.2
    have movedKey : (key.move bytes).kind = .identifier := word
    rw [List.map_cons, List.map_singleton, List.cons_append, List.singleton_append,
      readKeys_of_name movedDot adjacent movedKey, Token.span_move, ← extend_move]
    rfl
  | _, before, _, @ReadsKeys.position _ _ _ _ dot number _ _ opens isNumber found more => by
    obtain ⟨used, replays⟩ := more.replays
    refine ⟨_, replays.behind [dot, number] (by simp [opens.1, isNumber, TokenKind.inPath])
      fun bytes _ _ _ _ => ?_⟩
    have movedDot : (dot.move bytes).kind = .dot := opens.1
    have adjacent := (@Token.start_move_iff bytes dot before).mpr opens.2
    have movedNumber : (number.move bytes).kind = .number := isNumber
    rw [List.map_cons, List.map_singleton, List.cons_append, List.singleton_append,
      readKeys_of_position movedDot adjacent movedNumber (Token.index_move found),
      Token.span_move, extend_move]
  | _, before, _, @ReadsKeys.index _ _ _ _ bracket number close _ _ opens isNumber found closes
      more => by
    obtain ⟨used, replays⟩ := more.replays
    refine ⟨_, replays.behind [bracket, number, close]
      (by simp [opens.1, isNumber, closes, TokenKind.inPath]) fun bytes _ _ _ _ => ?_⟩
    have movedBracket : (bracket.move bytes).kind = .openBracket := opens.1
    have adjacent := (@Token.start_move_iff bytes bracket before).mpr opens.2
    have movedNumber : (number.move bytes).kind = .number := isNumber
    have movedClose : (close.move bytes).kind = .closeBracket := closes
    rw [List.map_cons, List.map_cons, List.map_singleton, List.cons_append, List.cons_append,
      List.singleton_append,
      readKeys_of_index movedBracket adjacent movedNumber (Token.index_move found) movedClose,
      Token.span_move, extend_move]
  | _, before, _, @ReadsKeys.enter _ _ _ _ bracket first _ opens other inside => by
    obtain ⟨_, used, replays⟩ := inside.replays
    obtain ⟨rfl, -⟩ := List.cons.inj replays.split
    refine ⟨_, replays.behind [bracket] (by simp [opens.1, TokenKind.inPath])
      fun bytes _ _ _ _ => ?_⟩
    have movedBracket : (bracket.move bytes).kind = .openBracket := opens.1
    have adjacent := (@Token.start_move_iff bytes bracket before).mpr opens.2
    have movedFirst : (first.move bytes).kind ≠ .number := other
    rw [List.map_singleton, List.singleton_append, List.map_cons, List.cons_append,
      readKeys_of_open movedBracket adjacent movedFirst]
    rfl
  | _, before, _, @ReadsKeys.close _ _ _ _ _ bracket _ closes more => by
    obtain ⟨used, replays⟩ := more.replays
    refine ⟨_, replays.behind [bracket] (by simp [closes, TokenKind.inPath])
      fun bytes _ _ _ _ => ?_⟩
    have movedBracket : (bracket.move bytes).kind = .closeBracket := closes
    rw [List.map_singleton, List.singleton_append, List.map_cons, List.cons_append,
      readKeys_of_close movedBracket, Token.span_move, ← extend_move]
    rfl

end

/-- A path that is read from its beginning is read so wherever its tokens stand. -/
theorem Path.replays_readStart {outer : List Path} {tokens : List Token}
    (read : Path.readStart input outer tokens = .ok (path, rest)) :
    ∃ first used, Path.Replays tokens rest path (first :: used) fun bytes input around =>
      Path.readStart input (outer.map (Path.move bytes) ++ around) :=
  (Path.readsStart_of_readStart read).replays

end Dust
