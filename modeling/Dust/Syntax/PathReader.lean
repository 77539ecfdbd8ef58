import Dust.Number.Reader
import Dust.Syntax.Input
import Dust.Syntax.Tree

/-!
# Reading paths

A path begins with a name or a dot, and goes on as long as a dot or an opening bracket follows
without blank space. In brackets stands a position or another path, while the paths around it
wait.
-/

namespace Dust

/-- The path with one more key. -/
def Path.extend (path : Path) (key : Key) (span : Span) : Path :=
  { path with keys := path.keys ++ [key], span := path.span.cover span }

/-- The key that a number in a path stands for. -/
def Token.index (token : Token) : Except Located Key :=
  match Number.readIndex? token.text with
  | some index => .ok (.index index)
  | none => .error ⟨.invalidIndex, token.span⟩

/-- A number that stands for a key spells a position. -/
theorem Token.index_eq_ok {token : Token} {key : Key} (read : token.index = .ok key) :
    ∃ index, Number.readIndex? token.text = some index ∧ key = .index index := by
  unfold Token.index at read
  split at read
  · rename_i index spelled
    cases read
    exact ⟨index, spelled, rfl⟩
  · cases read

mutual

/-- Reads a path from its beginning. The paths around it are given innermost first. -/
def Path.readStart (input : Input) (outer : List Path) :
    List Token → Except Located (Path × List Token)
  | [] => .error (input.ended .path)
  | token :: rest =>
    match token.kind with
    | .identifier =>
      Path.readKeys input outer ⟨.relative, [.name token.string], token.span⟩ rest
    | .dot =>
      match rest with
      | [] => Path.readKeys input outer ⟨.current, [], token.span⟩ []
      | next :: later =>
        if next.kind = .identifier ∧ next.start = token.stop then
          Path.readKeys input outer
            ⟨.current, [.name next.string], token.span.cover next.span⟩ later
        else Path.readKeys input outer ⟨.current, [], token.span⟩ (next :: later)
    | _ => .error (token.insteadOf .path)

/-- Reads the rest of a path. When there is no more of it, the bracket is expected that closes the
path in the innermost of the paths around it. -/
def Path.readKeys (input : Input) (outer : List Path) (path : Path) :
    List Token → Except Located (Path × List Token)
  | [] =>
    match outer with
    | [] => .ok (path, [])
    | _ => .error (input.ended (.token .closeBracket))
  | token :: rest =>
    if token.kind = .dot ∧ token.start = path.span.stop then
      match rest with
      | [] => .error (input.ended .key)
      | key :: later =>
        match key.kind with
        | .identifier =>
          Path.readKeys input outer (path.extend (.name key.string) key.span) later
        | .number => do
          let index ← key.index
          Path.readKeys input outer (path.extend index key.span) later
        | _ => .error (key.insteadOf .key)
    else if token.kind = .openBracket ∧ token.start = path.span.stop then
      match rest with
      | [] => Path.readStart input (path :: outer) []
      | number :: later =>
        if number.kind = .number then do
          let index ← number.index
          match later with
          | [] => .error (input.ended (.token .closeBracket))
          | close :: after =>
            if close.kind = .closeBracket then
              Path.readKeys input outer (path.extend index close.span) after
            else .error (close.insteadOf (.token .closeBracket))
        else Path.readStart input (path :: outer) (number :: later)
    else
      match outer with
      | [] => .ok (path, token :: rest)
      | enclosing :: outer =>
        if token.kind = .closeBracket then
          Path.readKeys input outer (enclosing.extend (.path path) token.span) rest
        else .error (token.insteadOf (.token .closeBracket))

end

/-- Reads a path. -/
def Path.read (input : Input) (tokens : List Token) : Except Located (Path × List Token) :=
  Path.readStart input [] tokens

/-! ### What a step can do -/

mutual

/-- How a path is read from its beginning, inside of others that wait. What is read in the end is the
outermost path, with the tokens that are left. -/
inductive Path.ReadsStart (path : Path) (rest : List Token) : List Path → List Token → Prop where
  /-- It begins with a name. -/
  | name {outer : List Path} {token : Token} {later : List Token} (word : token.kind = .identifier)
    (more : Path.ReadsKeys path rest outer ⟨.relative, [.name token.string], token.span⟩ later) :
    Path.ReadsStart path rest outer (token :: later)
  /-- It begins with the current value, and no name stands directly behind. -/
  | current {outer : List Path} {token : Token} {later : List Token} (dot : token.kind = .dot)
    (apart : ∀ next ∈ later.head?, ¬ (next.kind = .identifier ∧ next.start = token.stop))
    (more : Path.ReadsKeys path rest outer ⟨.current, [], token.span⟩ later) :
    Path.ReadsStart path rest outer (token :: later)
  /-- It begins with a name in the current value. -/
  | currentName {outer : List Path} {token next : Token} {later : List Token}
    (dot : token.kind = .dot) (word : next.kind = .identifier) (adjacent : next.start = token.stop)
    (more : Path.ReadsKeys path rest outer
      ⟨.current, [.name next.string], token.span.cover next.span⟩ later) :
    Path.ReadsStart path rest outer (token :: next :: later)

/-- How the rest of a path is read. -/
inductive Path.ReadsKeys (path : Path) (rest : List Token) :
    List Path → Path → List Token → Prop where
  /-- There is no more of it. -/
  | complete : Path.ReadsKeys path rest [] path rest
  /-- A name behind a dot. -/
  | name {outer : List Path} {before : Path} {dot key : Token} {later : List Token}
    (opens : dot.kind = .dot ∧ dot.start = before.span.stop) (word : key.kind = .identifier)
    (more : Path.ReadsKeys path rest outer (before.extend (.name key.string) key.span) later) :
    Path.ReadsKeys path rest outer before (dot :: key :: later)
  /-- A position behind a dot. -/
  | position {outer : List Path} {before : Path} {dot number : Token} {later : List Token}
    {key : Key} (opens : dot.kind = .dot ∧ dot.start = before.span.stop)
    (isNumber : number.kind = .number) (found : number.index = .ok key)
    (more : Path.ReadsKeys path rest outer (before.extend key number.span) later) :
    Path.ReadsKeys path rest outer before (dot :: number :: later)
  /-- A position in brackets. -/
  | index {outer : List Path} {before : Path} {bracket number close : Token} {later : List Token}
    {key : Key} (opens : bracket.kind = .openBracket ∧ bracket.start = before.span.stop)
    (isNumber : number.kind = .number) (found : number.index = .ok key)
    (closes : close.kind = .closeBracket)
    (more : Path.ReadsKeys path rest outer (before.extend key close.span) later) :
    Path.ReadsKeys path rest outer before (bracket :: number :: close :: later)
  /-- Another path in brackets, which is read while this one waits. -/
  | enter {outer : List Path} {before : Path} {bracket first : Token} {later : List Token}
    (opens : bracket.kind = .openBracket ∧ bracket.start = before.span.stop)
    (other : first.kind ≠ .number)
    (inside : Path.ReadsStart path rest (before :: outer) (first :: later)) :
    Path.ReadsKeys path rest outer before (bracket :: first :: later)
  /-- The bracket behind a path that is a key of the one around it. -/
  | close {enclosing : Path} {outer : List Path} {before : Path} {bracket : Token}
    {later : List Token} (closes : bracket.kind = .closeBracket)
    (more : Path.ReadsKeys path rest outer (enclosing.extend (.path before) bracket.span) later) :
    Path.ReadsKeys path rest (enclosing :: outer) before (bracket :: later)

end

section Reading

variable {input : Input} {path : Path} {rest : List Token}

mutual

/-- A path is read from its beginning in these steps. -/
theorem Path.readsStart_of_readStart : ∀ {outer : List Path} {tokens : List Token},
    Path.readStart input outer tokens = .ok (path, rest) → Path.ReadsStart path rest outer tokens
  | outer, [], read => by simp [Path.readStart] at read
  | outer, token :: later, read => by
    unfold Path.readStart at read
    split at read
    · rename_i word
      exact .name word (readsKeys_of_readKeys read)
    · rename_i dot
      split at read
      · exact .current dot nofun (readsKeys_of_readKeys read)
      · rename_i next behind
        split at read
        · rename_i goesOn
          exact .currentName dot goesOn.1 goesOn.2 (readsKeys_of_readKeys read)
        · rename_i apart
          refine .current dot ?_ (readsKeys_of_readKeys read)
          rintro _ ⟨⟩
          exact apart
    · cases read

/-- The rest of a path is read in these steps. -/
theorem Path.readsKeys_of_readKeys : ∀ {outer : List Path} {before : Path} {tokens : List Token},
    Path.readKeys input outer before tokens = .ok (path, rest) →
      Path.ReadsKeys path rest outer before tokens
  | outer, before, [], read => by
    unfold Path.readKeys at read
    split at read
    · cases read
      exact .complete
    · cases read
  | outer, before, token :: later, read => by
    unfold Path.readKeys at read
    split at read
    · rename_i opens
      split at read
      · cases read
      · split at read
        · rename_i word
          exact .name opens word (readsKeys_of_readKeys read)
        · rename_i isNumber
          obtain ⟨key, found, read⟩ := bind_eq_ok read
          exact .position opens isNumber found (readsKeys_of_readKeys read)
        · cases read
    · split at read
      · rename_i opens
        split at read
        · simp [Path.readStart] at read
        · split at read
          · rename_i isNumber
            obtain ⟨key, found, read⟩ := bind_eq_ok read
            split at read
            · cases read
            · split at read
              · rename_i closes
                exact .index opens isNumber found closes (readsKeys_of_readKeys read)
              · cases read
          · rename_i other
            exact .enter opens other (readsStart_of_readStart read)
      · split at read
        · cases read
          exact .complete
        · split at read
          · rename_i closes
            exact .close closes (readsKeys_of_readKeys read)
          · cases read

end

end Reading

/-- What is kept while a path is read. One property is of the paths that wait and the tokens with
which another path is to begin inside of them, and one is of the paths that go on and the tokens
after them. Paths are given innermost first. -/
structure Path.ReadingKeeps (waiting reading : List Path → List Token → Prop) : Prop where
  /-- A path begins with a name. -/
  name : ∀ {outer token rest}, waiting outer (token :: rest) →
    reading (⟨.relative, [.name token.string], token.span⟩ :: outer) rest
  /-- A path begins with the current value. -/
  current : ∀ {outer token rest}, waiting outer (token :: rest) →
    reading (⟨.current, [], token.span⟩ :: outer) rest
  /-- A path begins with a name in the current value. -/
  currentName : ∀ {outer token next rest}, waiting outer (token :: next :: rest) →
    reading (⟨.current, [.name next.string], token.span.cover next.span⟩ :: outer) rest
  /-- The innermost path goes on with a name or a position, up to a token. -/
  extend : ∀ {path outer token rest tokens key}, reading (path :: outer) tokens →
    token :: rest <:+ tokens →
    ((∃ name, key = .name name) ∨ ∃ number : Token, number.index = .ok key) →
    reading (path.extend key token.span :: outer) rest
  /-- Behind a bracket a path is to begin inside of the others. -/
  enter : ∀ {outer bracket rest}, reading outer (bracket :: rest) → waiting outer rest
  /-- A bracket makes the innermost path a key of the one around it. -/
  close : ∀ {path enclosing outer bracket rest},
    reading (path :: enclosing :: outer) (bracket :: rest) →
    reading (enclosing.extend (.path path) bracket.span :: outer) rest

section Keeping

variable {waiting reading : List Path → List Token → Prop}
  (keeps : Path.ReadingKeeps waiting reading) {input : Input} {path : Path} {rest : List Token}

include keeps

-- The path that is read in the end is the outermost one, so what is kept is of all that go on.
mutual

/-- What is kept holds in the end of a path that is read from its beginning in steps. -/
theorem Path.ReadingKeeps.readsStart : ∀ {outer : List Path} {tokens : List Token},
    Path.ReadsStart path rest outer tokens → waiting outer tokens → reading [path] rest
  | _, _, .name _ more, kept => readsKeys more (keeps.name kept)
  | _, _, .current _ _ more, kept => readsKeys more (keeps.current kept)
  | _, _, .currentName _ _ _ more, kept => readsKeys more (keeps.currentName kept)

/-- What is kept holds in the end of a path the rest of which is read in steps. -/
theorem Path.ReadingKeeps.readsKeys : ∀ {outer : List Path} {before : Path} {tokens : List Token},
    Path.ReadsKeys path rest outer before tokens → reading (before :: outer) tokens →
      reading [path] rest
  | _, _, _, .complete, kept => kept
  | _, _, _, .name _ _ more, kept =>
    readsKeys more (keeps.extend kept (List.suffix_cons _ _) (.inl ⟨_, rfl⟩))
  | _, _, _, .position _ _ found more, kept =>
    readsKeys more (keeps.extend kept (List.suffix_cons _ _) (.inr ⟨_, found⟩))
  | _, _, _, .index _ _ found _ more, kept =>
    readsKeys more (keeps.extend kept ((List.suffix_cons _ _).trans (List.suffix_cons _ _))
      (.inr ⟨_, found⟩))
  | _, _, _, .enter _ _ inside, kept => readsStart inside (keeps.enter kept)
  | _, _, _, .close _ more, kept => readsKeys more (keeps.close kept)

end

/-- What is kept holds in the end of a path that is read from its beginning. -/
theorem Path.ReadingKeeps.readStart {outer : List Path} {tokens : List Token}
    (kept : waiting outer tokens) (read : Path.readStart input outer tokens = .ok (path, rest)) :
    reading [path] rest :=
  keeps.readsStart (Path.readsStart_of_readStart read) kept

end Keeping

/-- Reading a path goes on with last ones of its tokens. -/
theorem Path.ReadingKeeps.suffix (tokens : List Token) :
    Path.ReadingKeeps (fun _ left => left.tail <:+ tokens) (fun _ left => left <:+ tokens) where
  name := id
  current := id
  currentName kept := (List.suffix_cons _ _).trans kept
  extend kept after _ := ((List.suffix_cons _ _).trans after).trans kept
  enter {_ _ rest} kept :=
    (List.tail_suffix rest).trans ((List.suffix_cons _ _).trans kept)
  close kept := (List.suffix_cons _ _).trans kept

/-- A path that is read takes the first token, and leaves the last ones. -/
theorem Path.readStart_suffix {input : Input} {path : Path} {rest : List Token} {outer : List Path}
    {tokens : List Token} (read : Path.readStart input outer tokens = .ok (path, rest)) :
    ∃ first later, tokens = first :: later ∧ rest <:+ later := by
  cases tokens with
  | nil => simp [Path.readStart] at read
  | cons first later =>
    exact ⟨first, later, rfl, (Path.ReadingKeeps.suffix later).readStart List.suffix_rfl read⟩

end Dust
