import Dust.Proofs.Number.Digits
import Dust.Proofs.Syntax.Lexing

/-!
# Reading paths that are written

The text of a path is cut into tokens without gaps, and the reader takes these tokens for the path,
whatever paths are open around it. Both are proved at once by following the keys, since the tokens
of a path in brackets stand among the tokens of the path around it.
-/

namespace Dust

/-! ## Tokens without gaps -/

/-- Tokens each of which begins where the one before it stops. -/
def Tiles : Nat → List Token → Nat → Prop
  | start, [], stop => start = stop
  | start, token :: rest, stop => token.start = start ∧ Tiles token.stop rest stop

/-- Tokens without gaps in a row have none together. -/
theorem Tiles.append {start middle stop : Nat} {front back : List Token}
    (first : Tiles start front middle) (second : Tiles middle back stop) :
    Tiles start (front ++ back) stop := by
  induction front generalizing start with
  | nil =>
    cases first
    exact second
  | cons token rest induction => exact ⟨first.1, induction first.2⟩

/-- Tokens without gaps span everything from their start to their stop. -/
theorem Tiles.spanOf {start stop : Nat} {first : Token} {more : List Token}
    (tiles : Tiles start (first :: more) stop) : first.spanOf more = ⟨start, stop⟩ := by
  obtain ⟨rfl, tiles⟩ := tiles
  have covered {begin middle : Nat} (before : begin ≤ middle) {tokens : List Token}
      (tiles : Tiles middle tokens stop) :
      tokens.foldl (fun (span : Span) token => span.cover token.span) ⟨begin, middle⟩ =
        (⟨begin, stop⟩ : Span) := by
    induction tokens generalizing middle with
    | nil =>
      cases tiles
      rfl
    | cons token rest induction =>
      obtain ⟨rfl, tiles⟩ := tiles
      have after : token.start ≤ token.stop := Nat.le_add_right _ _
      rw [List.foldl_cons, Span.cover, Token.span, Nat.min_eq_left before,
        Nat.max_eq_right after]
      exact induction (Nat.le_trans before after) tiles
  exact covered (Nat.le_add_right _ _) tiles

/-- A text in a tag is cut into tokens without gaps, none of which ends the tag. -/
structure CutsWhole (opening : Span) (start : Nat) (text : List Char) (tokens : List Token)
    (later : List Char) : Prop where
  /-- The tokens of the text. -/
  cuts : Cuts (.tag opening) start text tokens (.tag opening) later
  /-- There is nothing between them. -/
  tiles : Tiles start tokens (start + Text.byteSize text)
  /-- The tag goes on after each of them. -/
  goesOn : ∀ token ∈ tokens, token.kind ≠ .tagEnd

namespace CutsWhole

variable {opening : Span} {start : Nat} {later : List Char}

/-- A text without characters is cut into no tokens. -/
theorem nil : CutsWhole opening start [] [] later :=
  ⟨Cuts.nil, rfl, by simp⟩

/-- A text that is one token is cut without gaps. -/
theorem single {kind : TokenKind} {text : List Char}
    (cut : Cuts (.tag opening) start text [⟨kind, text, start⟩] (.tag opening) later)
    (goesOn : kind ≠ .tagEnd) : CutsWhole opening start text [⟨kind, text, start⟩] later :=
  ⟨cut, ⟨rfl, rfl⟩, by simpa using goesOn⟩

/-- A dot is cut without gaps. -/
theorem dot : CutsWhole opening start ['.'] [⟨.dot, ['.'], start⟩] later :=
  single (Cuts.mark rfl (by decide) (by decide)) (by decide)

/-- An opening bracket is cut without gaps. -/
theorem openBracket : CutsWhole opening start ['['] [⟨.openBracket, ['['], start⟩] later :=
  single (Cuts.mark rfl (by decide) (by decide)) (by decide)

/-- A closing bracket is cut without gaps. -/
theorem closeBracket : CutsWhole opening start [']'] [⟨.closeBracket, [']'], start⟩] later :=
  single (Cuts.mark rfl (by decide) (by decide)) (by decide)

/-- A word is cut without gaps. -/
theorem name {name : String} (word : isWord name = true) (stops : Stops isWordPart later) :
    CutsWhole opening start name.toList [⟨.identifier, name.toList, start⟩] later :=
  single (Cuts.name word stops) (by decide)

/-- Texts in a row that are cut without gaps are so together. -/
theorem append {front back : List Char} {tokens more : List Token}
    (first : CutsWhole opening start front tokens (back ++ later))
    (second : CutsWhole opening (start + Text.byteSize front) back more later) :
    CutsWhole opening start (front ++ back) (tokens ++ more) later := by
  refine ⟨first.cuts.append second.cuts, ?_, ?_⟩
  · rw [Text.byteSize_append, ← Nat.add_assoc]
    exact first.tiles.append second.tiles
  · intro token mem
    rcases List.mem_append.mp mem with mem | mem
    · exact first.goesOn token mem
    · exact second.goesOn token mem

end CutsWhole

/-! ## Paths and keys -/

/-- Tokens that do not go on with a path that stops at a byte. -/
def Detached (stop : Nat) (tokens : List Token) : Prop :=
  ∀ token ∈ tokens.head?, token.start = stop →
    token.kind ≠ .dot ∧ token.kind ≠ .openBracket ∧ token.kind ≠ .identifier

/-- Places are dropped from keys in a row one after the other. -/
theorem Path.unplacedKeys_append (keys others : List Key) :
    Path.unplacedKeys (keys ++ others) = Path.unplacedKeys keys ++ Path.unplacedKeys others := by
  induction keys with
  | nil => rfl
  | cons key rest induction => rw [List.cons_append, unplacedKeys, unplacedKeys, induction]; rfl

/-- A path is read up to tokens that do not go on with it. -/
theorem Path.readKeys_detached {input : Input} {path : Path} {tokens : List Token}
    (detached : Detached path.span.stop tokens) :
    Path.readKeys input [] path tokens = .ok (path, tokens) := by
  cases tokens with
  | nil => simp [readKeys]
  | cons token rest =>
    have dot : ¬ (token.kind = .dot ∧ token.start = path.span.stop) :=
      fun goesOn => (detached token rfl goesOn.2).1 goesOn.1
    have bracket : ¬ (token.kind = .openBracket ∧ token.start = path.span.stop) :=
      fun goesOn => (detached token rfl goesOn.2).2.1 goesOn.1
    unfold readKeys
    rw [if_neg dot, if_neg bracket]

section Steps

variable {input : Input} {outer : List Path} {path : Path} {token next close : Token}
  {rest : List Token} {key : Key}

/-- A word begins a path. -/
theorem Path.readStart_of_word (word : token.kind = .identifier) :
    Path.readStart input outer (token :: rest) =
      Path.readKeys input outer ⟨.relative, [.name token.string], token.span⟩ rest := by
  rw [readStart.eq_def]
  simp only [word]

/-- A dot without a word directly behind it begins a path. -/
theorem Path.readStart_of_dot (dot : token.kind = .dot)
    (apart : ∀ next ∈ rest.head?, ¬ (next.kind = .identifier ∧ next.start = token.stop)) :
    Path.readStart input outer (token :: rest) =
      Path.readKeys input outer ⟨.current, [], token.span⟩ rest := by
  rw [readStart.eq_def]
  simp only [dot]
  cases rest with
  | nil => rfl
  | cons next later => exact if_neg (apart next rfl)

/-- A dot and a word directly behind it begin a path. -/
theorem Path.readStart_of_dotWord (dot : token.kind = .dot) (word : next.kind = .identifier)
    (adjacent : next.start = token.stop) :
    Path.readStart input outer (token :: next :: rest) =
      Path.readKeys input outer ⟨.current, [.name next.string], token.span.cover next.span⟩ rest := by
  rw [readStart.eq_def]
  simp only [dot]
  exact if_pos ⟨word, adjacent⟩

/-- A path goes on with a dot and a word. -/
theorem Path.readKeys_of_name (dot : token.kind = .dot) (adjacent : token.start = path.span.stop)
    (word : next.kind = .identifier) :
    Path.readKeys input outer path (token :: next :: rest) =
      Path.readKeys input outer (path.extend (.name next.string) next.span) rest := by
  rw [readKeys.eq_def]
  simp only [dot, adjacent, and_self, ↓reduceIte, word]

/-- A path goes on with a dot and a position. -/
theorem Path.readKeys_of_position (dot : token.kind = .dot)
    (adjacent : token.start = path.span.stop) (number : next.kind = .number)
    (found : next.index = .ok key) :
    Path.readKeys input outer path (token :: next :: rest) =
      Path.readKeys input outer (path.extend key next.span) rest := by
  rw [readKeys.eq_def]
  simp only [dot, adjacent, and_self, ↓reduceIte, number, found]
  rfl

/-- A path goes on with a position in brackets. -/
theorem Path.readKeys_of_index (bracket : token.kind = .openBracket)
    (adjacent : token.start = path.span.stop) (number : next.kind = .number)
    (found : next.index = .ok key) (closes : close.kind = .closeBracket) :
    Path.readKeys input outer path (token :: next :: close :: rest) =
      Path.readKeys input outer (path.extend key close.span) rest := by
  rw [readKeys.eq_def]
  simp only [bracket, adjacent, and_self, ↓reduceIte, number, found, closes, bind, Except.bind,
    reduceCtorEq, false_and]

/-- Behind a bracket another path begins. -/
theorem Path.readKeys_of_open (bracket : token.kind = .openBracket)
    (adjacent : token.start = path.span.stop) (other : next.kind ≠ .number) :
    Path.readKeys input outer path (token :: next :: rest) =
      Path.readStart input (path :: outer) (next :: rest) := by
  rw [readKeys.eq_def]
  simp only [bracket, adjacent, and_self, ↓reduceIte, other, reduceCtorEq, false_and]

/-- A bracket that is closed makes a path a key of the one around it. -/
theorem Path.readKeys_of_close {enclosing : Path} (closes : token.kind = .closeBracket) :
    Path.readKeys input (enclosing :: outer) path (token :: rest) =
      Path.readKeys input outer (enclosing.extend (.path path) token.span) rest := by
  rw [readKeys.eq_def]
  simp only [closes, reduceCtorEq, false_and, ↓reduceIte]

end Steps

section Written

variable {input : Input} {outer : List Path} {path : Path} {text : List Char} {start : Nat}
  {rest : List Token}

/-- A path may begin with a word. -/
theorem Path.readStart_word :
    Path.readStart input outer (⟨.identifier, text, start⟩ :: rest) =
      Path.readKeys input outer ⟨.relative, [.name (String.ofList text)],
        ⟨start, start + Text.byteSize text⟩⟩ rest :=
  readStart_of_word rfl

/-- A path may begin with a dot alone. -/
theorem Path.readStart_dot (apart : ∀ token ∈ rest.head?, token.start = start + 1 →
    token.kind ≠ .identifier) :
    Path.readStart input outer (⟨.dot, ['.'], start⟩ :: rest) =
      Path.readKeys input outer ⟨.current, [], ⟨start, start + 1⟩⟩ rest :=
  readStart_of_dot rfl fun token mem goesOn => apart token mem goesOn.2 goesOn.1

/-- A path may begin with a dot and a word directly behind it. -/
theorem Path.readStart_dotWord :
    Path.readStart input outer
        (⟨.dot, ['.'], start⟩ :: ⟨.identifier, text, start + 1⟩ :: rest) =
      Path.readKeys input outer ⟨.current, [.name (String.ofList text)],
        ⟨start, start + 1 + Text.byteSize text⟩⟩ rest := by
  have covered : (⟨start, start + 1⟩ : Span).cover ⟨start + 1, start + 1 + Text.byteSize text⟩ =
      ⟨start, start + 1 + Text.byteSize text⟩ := by
    simp [Span.cover]
  rw [← covered]
  exact readStart_of_dotWord rfl rfl rfl

/-- The span of a path grows by a token that begins where the path stops or behind it. -/
theorem Path.extend_eq (key : Key) {begin stop : Nat} (before : path.span.start ≤ begin)
    (after : path.span.stop ≤ stop) :
    path.extend key ⟨begin, stop⟩ =
      ⟨path.anchor, path.keys ++ [key], ⟨path.span.start, stop⟩⟩ := by
  simp [extend, Span.cover, before, after]

/-- A path may go on with a dot and a word. -/
theorem Path.readKeys_name (stops : path.span.stop = start) (before : path.span.start ≤ start) :
    Path.readKeys input outer path
        (⟨.dot, ['.'], start⟩ :: ⟨.identifier, text, start + 1⟩ :: rest) =
      Path.readKeys input outer ⟨path.anchor, path.keys ++ [.name (String.ofList text)],
        ⟨path.span.start, start + 1 + Text.byteSize text⟩⟩ rest := by
  have grown : path.extend (.name (String.ofList text))
      ⟨start + 1, start + 1 + Text.byteSize text⟩ = _ :=
    Path.extend_eq _ (by omega) (by omega)
  rw [← grown]
  exact readKeys_of_name rfl stops.symm rfl

/-- A path may go on with a dot and a position. -/
theorem Path.readKeys_position {index : Nat} (stops : path.span.stop = start)
    (before : path.span.start ≤ start) (found : Number.readIndex? text = some index) :
    Path.readKeys input outer path
        (⟨.dot, ['.'], start⟩ :: ⟨.number, text, start + 1⟩ :: rest) =
      Path.readKeys input outer ⟨path.anchor, path.keys ++ [.index index],
        ⟨path.span.start, start + 1 + Text.byteSize text⟩⟩ rest := by
  have grown : path.extend (.index index) ⟨start + 1, start + 1 + Text.byteSize text⟩ = _ :=
    Path.extend_eq _ (by omega) (by omega)
  have isIndex : Token.index ⟨.number, text, start + 1⟩ = .ok (.index index) := by
    simp [Token.index, found]
  rw [← grown]
  exact readKeys_of_position rfl stops.symm rfl isIndex

/-- A path may go on with a position in brackets. -/
theorem Path.readKeys_index {index place close : Nat} (stops : path.span.stop = start)
    (before : path.span.start ≤ start) (order : start ≤ close)
    (found : Number.readIndex? text = some index) :
    Path.readKeys input outer path
        (⟨.openBracket, ['['], start⟩ :: ⟨.number, text, place⟩ ::
          ⟨.closeBracket, [']'], close⟩ :: rest) =
      Path.readKeys input outer ⟨path.anchor, path.keys ++ [.index index],
        ⟨path.span.start, close + 1⟩⟩ rest := by
  have grown : path.extend (.index index) ⟨close, close + 1⟩ = _ :=
    Path.extend_eq _ (by omega) (by omega)
  have isIndex : Token.index ⟨.number, text, place⟩ = .ok (.index index) := by
    simp [Token.index, found]
  rw [← grown]
  exact readKeys_of_index rfl stops.symm rfl isIndex rfl

/-- A path may go on with a path in brackets, which is read first. -/
theorem Path.readKeys_open {first : Token} (stops : path.span.stop = start)
    (begins : first.kind ≠ .number) :
    Path.readKeys input outer path (⟨.openBracket, ['['], start⟩ :: first :: rest) =
      Path.readStart input (path :: outer) (first :: rest) :=
  readKeys_of_open rfl stops.symm begins

/-- A path in brackets becomes a key of the path around it where the bracket is closed. -/
theorem Path.readKeys_close {inner : Path} {close : Nat} (before : path.span.start ≤ close)
    (after : path.span.stop ≤ close + 1) :
    Path.readKeys input (path :: outer) inner (⟨.closeBracket, [']'], close⟩ :: rest) =
      Path.readKeys input outer ⟨path.anchor, path.keys ++ [.path inner],
        ⟨path.span.start, close + 1⟩⟩ rest := by
  have grown : path.extend (.path inner) ⟨close, close + 1⟩ = _ :=
    Path.extend_eq _ before after
  rw [← grown]
  exact readKeys_of_close rfl

end Written

/-- The text of a path is cut into tokens that the reader takes for it. -/
structure PathTokens (opening : Span) (start : Nat) (path : Path) (later : List Char)
    (tokens : List Token) (placed : Path) : Prop where
  /-- The tokens of the text. -/
  whole : CutsWhole opening start path.written tokens later
  /-- They begin as paths do. -/
  begins : ∃ first rest, tokens = first :: rest ∧
    (first.kind = .identifier ∨ first.kind = .dot)
  /-- What is read is the path. -/
  same : placed.unplaced = path.unplaced
  /-- It is written where the tokens are. -/
  place : placed.span = ⟨start, start + Text.byteSize path.written⟩
  /-- The reader takes the tokens. -/
  read : ∀ (input : Input) (outer : List Path) (rest : List Token),
    Detached (start + Text.byteSize path.written) rest →
      Path.readStart input outer (tokens ++ rest) = Path.readKeys input outer placed rest

/-- A text is cut into tokens that the reader takes for keys behind a path. -/
structure KeyTokens (opening : Span) (start : Nat) (text : List Char) (keys : List Key)
    (later : List Char) (tokens : List Token) (placed : List Key) : Prop where
  /-- The tokens of the text. -/
  whole : CutsWhole opening start text tokens later
  /-- They begin as keys do. -/
  begins : ∀ token ∈ tokens.head?, token.kind ≠ .identifier
  /-- What is read are the keys. -/
  same : Path.unplacedKeys placed = Path.unplacedKeys keys
  /-- The reader takes the tokens. -/
  read : ∀ (input : Input) (outer : List Path) (path : Path) (rest : List Token),
    path.span.stop = start → path.span.start ≤ start →
      Path.readKeys input outer path (tokens ++ rest) =
        Path.readKeys input outer ⟨path.anchor, path.keys ++ placed,
          ⟨path.span.start, start + Text.byteSize text⟩⟩ rest

/-- No keys are read from no tokens. -/
theorem KeyTokens.nil {opening : Span} {start : Nat} {later : List Char} :
    KeyTokens opening start [] [] later [] [] := by
  constructor
  case whole => exact CutsWhole.nil
  case begins => simp
  case same => rfl
  case read =>
    intro input outer path rest stop before
    rw [List.nil_append, List.append_nil, Text.byteSize_nil, Nat.add_zero, ← stop]
    cases path
    rfl

/-- One key and the keys after it are read in a row. -/
theorem KeyTokens.append {opening : Span} {start : Nat} {front back : List Char}
    {keys others placed more : List Key} {later : List Char} {tokens rest : List Token}
    (first : KeyTokens opening start front keys (back ++ later) tokens placed)
    (second : KeyTokens opening (start + Text.byteSize front) back others later rest more)
    (solid : tokens ≠ []) :
    KeyTokens opening start (front ++ back) (keys ++ others) later (tokens ++ rest)
      (placed ++ more) := by
  refine ⟨first.whole.append second.whole, ?_, ?_, ?_⟩
  · intro token mem
    rw [List.head?_append_of_ne_nil _ solid] at mem
    exact first.begins token mem
  · rw [Path.unplacedKeys_append, Path.unplacedKeys_append, first.same, second.same]
  · intro input outer path left stops before
    rw [List.append_assoc, first.read input outer path _ stops before, second.read,
      Text.byteSize_append]
    · simp [Nat.add_assoc]
    · rfl
    · exact Nat.le_trans before (Nat.le_add_right _ _)

/-- A path that begins with a word before the keys that follow it. -/
theorem PathTokens.relative {opening : Span} {start : Nat} {name : String} {keys placed : List Key}
    {span : Span} {later : List Char} {tokens : List Token} (word : isWord name = true)
    (stops : Stops isWordPart (Path.writtenKeys keys ++ later))
    (behind : KeyTokens opening (start + Text.byteSize name.toList) (Path.writtenKeys keys) keys
      later tokens placed) :
    PathTokens opening start ⟨.relative, .name name :: keys, span⟩ later
      (⟨.identifier, name.toList, start⟩ :: tokens)
      ⟨.relative, .name name :: placed,
        ⟨start, start + Text.byteSize (name.toList ++ Path.writtenKeys keys)⟩⟩ := by
  constructor
  case whole =>
    rw [Path.written]
    exact (CutsWhole.name word stops).append behind.whole
  case begins => exact ⟨_, _, rfl, .inl rfl⟩
  case same => simp only [Path.unplaced, Path.unplacedKeys, Key.unplaced, behind.same]
  case place => rw [Path.written]
  case read =>
    intro input outer rest detached
    rw [List.cons_append, Path.readStart_word, behind.read _ _ _ _ rfl (Nat.le_add_right _ _),
      String.ofList_toList, Text.byteSize_append, ← Nat.add_assoc]
    rfl

/-- A path that begins with a dot of its own before the keys that follow it. -/
theorem PathTokens.current {opening : Span} {start : Nat} {keys placed : List Key} {span : Span}
    {later : List Char} {tokens : List Token} (bare : Path.beginsWithName keys = false)
    (behind : KeyTokens opening (start + 1) (Path.writtenKeys keys) keys later tokens placed) :
    PathTokens opening start ⟨.current, keys, span⟩ later (⟨.dot, ['.'], start⟩ :: tokens)
      ⟨.current, placed, ⟨start, start + Text.byteSize ('.' :: Path.writtenKeys keys)⟩⟩ := by
  have written : Path.written ⟨.current, keys, span⟩ = '.' :: Path.writtenKeys keys := by
    rw [Path.written]
    intro name rest same
    rw [same] at bare
    cases bare
  constructor
  case whole =>
    rw [written]
    exact CutsWhole.dot.append behind.whole
  case begins => exact ⟨_, _, rfl, .inr rfl⟩
  case same => simp only [Path.unplaced, behind.same]
  case place => rw [written]
  case read =>
    intro input outer rest detached
    rw [written, Text.byteSize_cons, ← Nat.add_assoc] at detached
    have apart : ∀ token ∈ (tokens ++ rest).head?, token.start = start + 1 →
        token.kind ≠ .identifier := by
      cases tokens with
      | nil =>
        intro token mem place
        have none := behind.whole.tiles
        exact (detached token mem (place.trans none)).2.2
      | cons first more =>
        intro token mem _
        exact behind.begins token mem
    rw [List.cons_append, Path.readStart_dot apart,
      behind.read _ _ _ _ rfl (Nat.le_add_right _ _), Text.byteSize_cons, ← Nat.add_assoc]
    rfl

/-- A path that begins with a dot and a word before the keys that follow them. -/
theorem PathTokens.currentWord {opening : Span} {start : Nat} {name : String}
    {keys placed : List Key} {span : Span} {later : List Char} {tokens : List Token}
    (word : isWord name = true) (stops : Stops isWordPart (Path.writtenKeys keys ++ later))
    (behind : KeyTokens opening (start + 1 + Text.byteSize name.toList) (Path.writtenKeys keys)
      keys later tokens placed) :
    PathTokens opening start ⟨.current, .name name :: keys, span⟩ later
      (⟨.dot, ['.'], start⟩ :: ⟨.identifier, name.toList, start + 1⟩ :: tokens)
      ⟨.current, .name name :: placed,
        ⟨start, start + Text.byteSize (Path.writtenKeys (.name name :: keys))⟩⟩ := by
  have written : Path.writtenKeys (.name name :: keys) =
      ['.'] ++ (name.toList ++ Path.writtenKeys keys) := rfl
  constructor
  case whole =>
    rw [Path.written, written]
    exact CutsWhole.dot.append ((CutsWhole.name word stops).append behind.whole)
  case begins => exact ⟨_, _, rfl, .inr rfl⟩
  case same => simp only [Path.unplaced, Path.unplacedKeys, Key.unplaced, behind.same]
  case place => rw [Path.written]
  case read =>
    intro input outer rest detached
    have size : start + Text.byteSize (Path.writtenKeys (.name name :: keys)) =
        start + 1 + Text.byteSize name.toList + Text.byteSize (Path.writtenKeys keys) := by
      rw [written, Text.byteSize_append, Text.byteSize_append, ← Nat.add_assoc, ← Nat.add_assoc]
      rfl
    have before : start ≤ start + 1 + Text.byteSize name.toList := by omega
    rw [List.cons_append, List.cons_append, Path.readStart_dotWord,
      behind.read _ _ _ _ rfl before, String.ofList_toList, size]
    rfl

/-- A name is a key behind a dot. -/
theorem KeyTokens.name {opening : Span} {start : Nat} {name : String} {later : List Char}
    (word : isWord name = true) (stops : Stops isWordPart later) :
    KeyTokens opening start (Key.written (.name name)) [.name name] later
      [⟨.dot, ['.'], start⟩, ⟨.identifier, name.toList, start + 1⟩] [.name name] := by
  constructor
  case whole =>
    rw [Key.written]
    exact CutsWhole.dot.append (CutsWhole.name word stops)
  case begins => simp
  case same => rfl
  case read =>
    intro input outer path rest stop before
    have read := @Path.readKeys_name input outer path name.toList start rest stop before
    rw [String.ofList_toList] at read
    rw [Key.written, Text.byteSize_cons, ← Nat.add_assoc]
    exact read

/-- A position is a key in brackets. -/
theorem KeyTokens.index {opening : Span} {start index : Nat} {later : List Char}
    (bounded : index < Number.indexBound) :
    KeyTokens opening start (Key.written (.index index)) [.index index] later
      [⟨.openBracket, ['['], start⟩, ⟨.number, Number.natText index, start + 1⟩,
        ⟨.closeBracket, [']'], start + 1 + Text.byteSize (Number.natText index)⟩]
      [.index index] := by
  constructor
  case whole =>
    have digits : CutsWhole opening (start + 1) (Number.natText index)
        [⟨.number, Number.natText index, start + 1⟩] ([']'] ++ later) := by
      obtain ⟨first, more, written, digit, all⟩ := Number.natText_eq_cons index
      rw [written]
      exact CutsWhole.single (Cuts.number digit all (by simp [Stops])) (by decide)
    rw [Key.written]
    exact CutsWhole.openBracket.append (digits.append CutsWhole.closeBracket)
  case begins => simp
  case same => rfl
  case read =>
    intro input outer path rest stop before
    have order : start ≤ start + 1 + Text.byteSize (Number.natText index) := by omega
    have read := @Path.readKeys_index input outer path _ start rest index (start + 1) _ stop before
      order (Number.readIndex?_natText bounded)
    have size : start + Text.byteSize (Key.written (.index index)) =
        start + 1 + Text.byteSize (Number.natText index) + 1 := by
      rw [Key.written, Text.byteSize_cons, Text.byteSize_append, ← Nat.add_assoc, ← Nat.add_assoc]
      rfl
    rw [size]
    exact read

/-- A path is a key in brackets. -/
theorem KeyTokens.path {opening : Span} {start : Nat} {path placed : Path} {later : List Char}
    {tokens : List Token}
    (inner : PathTokens opening (start + 1) path (']' :: later) tokens placed) :
    KeyTokens opening start (Key.written (.path path)) [.path path] later
      (⟨.openBracket, ['['], start⟩ :: (tokens ++
        [⟨.closeBracket, [']'], start + 1 + Text.byteSize path.written⟩]))
      [.path placed] := by
  constructor
  case whole =>
    rw [Key.written]
    exact CutsWhole.openBracket.append (inner.whole.append CutsWhole.closeBracket)
  case begins => simp
  case same => simp only [Path.unplacedKeys, Key.unplaced, inner.same]
  case read =>
    intro input outer around rest stop before
    obtain ⟨first, more, tokensEq, begins⟩ := inner.begins
    have noNumber : first.kind ≠ .number := by
      rcases begins with kind | kind <;> simp [kind]
    have size : start + Text.byteSize (Key.written (.path path)) =
        start + 1 + Text.byteSize path.written + 1 := by
      rw [Key.written, Text.byteSize_cons, Text.byteSize_append, ← Nat.add_assoc, ← Nat.add_assoc]
      rfl
    have detached : Detached (start + 1 + Text.byteSize path.written)
        (⟨.closeBracket, [']'], start + 1 + Text.byteSize path.written⟩ :: rest) := by
      simp [Detached]
    have read := inner.read input (around :: outer) _ detached
    rw [tokensEq] at read ⊢
    simp only [List.cons_append, List.append_assoc, List.nil_append] at read ⊢
    rw [Path.readKeys_open stop noNumber, read, Path.readKeys_close (by omega) (by omega), size]

/-- No word goes on with the text of a key. -/
theorem stops_writtenKeys (keys : List Key) : Stops isWordPart (Path.writtenKeys keys) := by
  intro c next
  cases keys with
  | nil => cases next
  | cons key rest =>
    cases key <;> (cases next; decide)

mutual

/-- The text of a path is cut into tokens that the reader takes for it. -/
theorem Path.tokens_of_written : ∀ (path : Path) {opening : Span} {start : Nat}
    {later : List Char}, path.isWritable = true → Stops isWordPart later →
      ∃ tokens placed, PathTokens opening start path later tokens placed
  | ⟨.relative, [], _⟩, _, _, _, writable, _ => by
    simp [Path.isWritable, Path.beginsWithName] at writable
  | ⟨.relative, .index _ :: _, _⟩, _, _, _, writable, _ => by
    simp [Path.isWritable, Path.beginsWithName] at writable
  | ⟨.relative, .path _ :: _, _⟩, _, _, _, writable, _ => by
    simp [Path.isWritable, Path.beginsWithName] at writable
  | ⟨.relative, .name name :: keys, _⟩, _, start, later, writable, stops => by
    simp only [Path.isWritable, Path.areWritableKeys, Key.isWritable, Bool.and_eq_true] at writable
    obtain ⟨_, word, more⟩ := writable
    obtain ⟨tokens, placed, behind⟩ := Path.tokens_of_keys keys more stops
    exact ⟨_, _, .relative word ((stops_writtenKeys keys).append stops) behind⟩
  | ⟨.current, [], _⟩, _, start, later, writable, stops => by
    obtain ⟨tokens, placed, behind⟩ := Path.tokens_of_keys [] rfl stops
    exact ⟨_, _, .current rfl behind⟩
  | ⟨.current, .name name :: keys, _⟩, _, start, later, writable, stops => by
    simp only [Path.isWritable, Path.areWritableKeys, Key.isWritable, Bool.and_eq_true] at writable
    obtain ⟨_, word, more⟩ := writable
    obtain ⟨tokens, placed, behind⟩ := Path.tokens_of_keys keys more stops
    exact ⟨_, _, .currentWord word ((stops_writtenKeys keys).append stops) behind⟩
  | ⟨.current, .index index :: keys, _⟩, _, start, later, writable, stops => by
    simp only [Path.isWritable, Bool.and_eq_true] at writable
    obtain ⟨tokens, placed, behind⟩ := Path.tokens_of_keys (.index index :: keys) writable.2 stops
    exact ⟨_, _, .current rfl behind⟩
  | ⟨.current, .path path :: keys, _⟩, _, start, later, writable, stops => by
    simp only [Path.isWritable, Bool.and_eq_true] at writable
    obtain ⟨tokens, placed, behind⟩ := Path.tokens_of_keys (.path path :: keys) writable.2 stops
    exact ⟨_, _, .current rfl behind⟩

/-- The text of a key is cut into tokens that the reader takes for it. -/
theorem Key.tokens_of_written : ∀ (key : Key) {opening : Span} {start : Nat} {later : List Char},
    key.isWritable = true → Stops isWordPart later →
      ∃ tokens placed, tokens ≠ [] ∧
        KeyTokens opening start key.written [key] later tokens placed
  | .name name, _, _, _, writable, stops => ⟨_, _, by simp, .name writable stops⟩
  | .index index, _, _, _, writable, _ =>
    ⟨_, _, by simp, .index (of_decide_eq_true writable)⟩
  | .path path, _, _, later, writable, _ => by
    have bracket : Stops isWordPart (']' :: later) := .cons (by decide)
    obtain ⟨tokens, placed, inner⟩ := Path.tokens_of_written path writable bracket
    exact ⟨_, _, by simp, .path inner⟩

/-- The text of keys is cut into tokens that the reader takes for them. -/
theorem Path.tokens_of_keys : ∀ (keys : List Key) {opening : Span} {start : Nat}
    {later : List Char}, Path.areWritableKeys keys = true → Stops isWordPart later →
      ∃ tokens placed,
        KeyTokens opening start (Path.writtenKeys keys) keys later tokens placed
  | [], _, _, _, _, _ => ⟨[], [], KeyTokens.nil⟩
  | key :: keys, _, _, _, writable, stops => by
    simp only [Path.areWritableKeys, Bool.and_eq_true] at writable
    obtain ⟨tokens, placed, solid, first⟩ :=
      Key.tokens_of_written key writable.1 ((stops_writtenKeys keys).append stops)
    obtain ⟨rest, more, second⟩ := Path.tokens_of_keys keys writable.2 stops
    exact ⟨_, _, first.append second solid⟩

end

/-- A path that is written is read. -/
theorem PathTokens.read_detached {opening : Span} {start : Nat} {path placed : Path}
    {later : List Char} {tokens : List Token}
    (found : PathTokens opening start path later tokens placed)
    (input : Input) {rest : List Token}
    (detached : Detached (start + Text.byteSize path.written) rest) :
    Path.read input (tokens ++ rest) = .ok (placed, rest) := by
  have stop : placed.span.stop = start + Text.byteSize path.written := by rw [found.place]
  rw [← stop] at detached
  rw [Path.read, found.read input [] rest (stop ▸ detached), Path.readKeys_detached detached]

/-! ## Characters of paths -/

/-- The characters of a word can stand in a reference. -/
theorem isReferencePart_of_isWord {name : String} (word : isWord name = true) :
    ∀ c ∈ name.toList, isReferencePart c = true := by
  obtain ⟨first, rest, letters, begins, all⟩ := isWord_eq_cons word
  intro c mem
  have part : isWordPart c = true := by
    rw [letters] at mem
    rcases List.mem_cons.mp mem with rfl | mem
    · exact isWordPart_of_isWordStart begins
    · exact all c mem
  simp [isReferencePart, part]

mutual

/-- The characters of a path can stand in a reference. -/
theorem Path.isReferencePart_of_written : ∀ (path : Path), path.isWritable = true →
    ∀ c ∈ path.written, isReferencePart c = true
  | ⟨.relative, [], _⟩, _, c, mem => by simp [Path.written, Path.writtenKeys] at mem
  | ⟨.relative, .index index :: keys, _⟩, writable, _, _ => by
    simp [Path.isWritable, Path.beginsWithName] at writable
  | ⟨.relative, .path path :: keys, _⟩, writable, _, _ => by
    simp [Path.isWritable, Path.beginsWithName] at writable
  | ⟨.relative, .name name :: keys, _⟩, writable, c, mem => by
    simp only [Path.isWritable, Path.areWritableKeys, Key.isWritable, Bool.and_eq_true]
      at writable
    rw [Path.written, List.mem_append] at mem
    rcases mem with mem | mem
    · exact isReferencePart_of_isWord writable.2.1 c mem
    · exact Path.isReferencePart_of_keys keys writable.2.2 c mem
  | ⟨.current, keys, _⟩, writable, c, mem => by
    simp only [Path.isWritable, Bool.and_eq_true] at writable
    have cases : c = '.' ∨ c ∈ Path.writtenKeys keys := by
      unfold Path.written at mem
      split at mem <;> simp_all
    rcases cases with rfl | mem
    · decide
    · exact Path.isReferencePart_of_keys keys writable.2 c mem

/-- The characters of keys can stand in a reference. -/
theorem Path.isReferencePart_of_keys : ∀ (keys : List Key), Path.areWritableKeys keys = true →
    ∀ c ∈ Path.writtenKeys keys, isReferencePart c = true
  | [], _, c, mem => by simp [Path.writtenKeys] at mem
  | key :: keys, writable, c, mem => by
    simp only [Path.areWritableKeys, Bool.and_eq_true] at writable
    rw [Path.writtenKeys, List.mem_append] at mem
    rcases mem with mem | mem
    · exact Key.isReferencePart_of_written key writable.1 c mem
    · exact Path.isReferencePart_of_keys keys writable.2 c mem

/-- The characters of a key can stand in a reference. -/
theorem Key.isReferencePart_of_written : ∀ (key : Key), key.isWritable = true →
    ∀ c ∈ key.written, isReferencePart c = true
  | .name name, writable, c, mem => by
    rcases List.mem_cons.mp mem with rfl | mem
    · decide
    · exact isReferencePart_of_isWord writable c mem
  | .index index, _, c, mem => by
    rw [Key.written, List.mem_cons, List.mem_append, List.mem_singleton] at mem
    rcases mem with rfl | mem | rfl
    · decide
    · have part := isWordPart_of_isDigit (Number.isDigit_of_mem_natText mem)
      simp [isReferencePart, part]
    · decide
  | .path path, writable, c, mem => by
    rw [Key.written, List.mem_cons, List.mem_append, List.mem_singleton] at mem
    rcases mem with rfl | mem | rfl
    · decide
    · exact Path.isReferencePart_of_written path writable c mem
    · decide

end

/-- The text of a path begins with a character that words can begin with, or with a dot. -/
theorem Path.written_eq_cons {path : Path} (writable : path.isWritable = true) :
    ∃ first rest, path.written = first :: rest ∧
      (isWordStart first = true ∨ first = '.') := by
  obtain ⟨anchor, keys, span⟩ := path
  cases anchor with
  | relative =>
    cases keys with
    | nil => simp [isWritable, beginsWithName] at writable
    | cons key keys =>
      cases key with
      | name name =>
        simp only [isWritable, areWritableKeys, Key.isWritable, Bool.and_eq_true] at writable
        obtain ⟨first, rest, letters, begins, _⟩ := isWord_eq_cons writable.2.1
        refine ⟨first, rest ++ writtenKeys keys, ?_, .inl begins⟩
        rw [written, letters, List.cons_append]
      | index index => simp [isWritable, beginsWithName] at writable
      | path path => simp [isWritable, beginsWithName] at writable
  | current =>
    unfold written
    split
    · rename_i same
      cases same
    · rename_i same
      cases same
    · exact ⟨'.', _, rfl, .inr rfl⟩
    · exact ⟨'.', _, rfl, .inr rfl⟩

end Dust
