import Dust.Proofs.Syntax.PathSpelling
import Mathlib.Data.List.Chain

/-!
# Paths of dotted keys

A path may go on with dots alone, behind each of which stands a word or digits. The dots are cut off
one by one, except where digits stand on both sides: such a dot is the point of one number, and the
number is no position. So a dotted path is read key by key as long as no two numbers in it are next
to each other, and otherwise the first two that are make its source no template.
-/

namespace Dust

/-! ## Numbers before a dot -/

/-- A number takes a point with it that digits follow. -/
theorem numberLength_fraction {digits more later : List Char} {digit : Char}
    (all : ∀ c ∈ digits, c.isDigit = true) (isDigit : digit.isDigit = true)
    (others : ∀ c ∈ more, c.isDigit = true) (stops : Stops Char.isDigit later) :
    numberLength (digits ++ '.' :: digit :: more ++ later) =
      (digits ++ '.' :: digit :: more).length := by
  have point : Stops Char.isDigit ('.' :: digit :: (more ++ later)) := .cons (by decide)
  have text : digits ++ '.' :: digit :: more ++ later =
      digits ++ '.' :: digit :: (more ++ later) := by simp
  rw [text, numberLength_of_point (dropWhile_append_of_stops all point) isDigit,
    takeWhile_append_of_stops all point, takeWhile_append_of_stops others stops]
  simp

/-- Digits on both sides of a point are cut off as one number. -/
theorem Cuts.fraction {opening : Span} {start : Nat} {first digit : Char}
    {rest more later : List Char} (isDigit : first.isDigit = true)
    (all : ∀ c ∈ rest, c.isDigit = true) (behind : digit.isDigit = true)
    (others : ∀ c ∈ more, c.isDigit = true) (stops : Stops Char.isDigit later) :
    Cuts (.tag opening) start (first :: (rest ++ '.' :: digit :: more))
      [⟨.number, first :: (rest ++ '.' :: digit :: more), start⟩] (.tag opening) later := by
  apply inside _ (by decide) (by decide)
  rw [scanTag_digit isDigit, numberLength_fraction all behind others stops]

/-- A number with a point is no position. -/
theorem Number.readIndex?_of_point {first : Char} {text : List Char}
    (digit : first.isDigit = true) (point : '.' ∈ text) :
    Number.readIndex? (first :: text) = none := by
  have noDigits : ¬ ((first :: text).all Char.isDigit = true) := by
    intro all
    have isDigit := List.all_eq_true.mp all '.' (List.mem_cons_of_mem _ point)
    cases isDigit
  have unread : Number.readDigits? (first :: text) = none :=
    if_neg fun both => noDigits both.2
  unfold Number.readIndex?
  split
  · rename_i same
    cases same
    cases digit
  · simp [unread]

/-- Digits that spell a position are read as it. -/
theorem Number.readIndex?_digits {digits : List Char} (solid : digits ≠ [])
    (all : digits.all Char.isDigit = true) (bounded : Number.ofDigits digits < Number.indexBound) :
    Number.readIndex? digits = some (Number.ofDigits digits) := by
  have read : Number.readDigits? digits = some (Number.ofDigits digits) := if_pos ⟨solid, all⟩
  unfold Number.readIndex?
  split
  · cases all
  · simp [read, bounded]

/-! ## Dotted keys -/

/-- A key behind a dot as it is written. -/
inductive DottedKey where
  /-- A word. -/
  | name (letters : String) (word : isWord letters = true)
  /-- Digits that spell a position, which zeros may precede. -/
  | number (digits : List Char) (solid : digits ≠ []) (numeral : digits.all Char.isDigit = true)
      (bounded : Number.ofDigits digits < Number.indexBound)

namespace DottedKey

/-- The key that is written. -/
def key : DottedKey → Key
  | name letters _ => .name letters
  | number digits _ _ _ => .index (Number.ofDigits digits)

/-- What stands behind the dot. -/
def text : DottedKey → List Char
  | name letters _ => letters.toList
  | number digits _ _ _ => digits

/-- The text of the key with its dot. -/
def written (key : DottedKey) : List Char :=
  '.' :: key.text

/-- Whether the key is written in digits. -/
def isNumber : DottedKey → Bool
  | name _ _ => false
  | number _ _ _ _ => true

/-- What stands behind the dot as a token. -/
def token (key : DottedKey) (start : Nat) : Token :=
  ⟨if key.isNumber then .number else .identifier, key.text, start⟩

/-- The text of a key ends before a text. -/
def EndsBefore (key : DottedKey) (later : List Char) : Prop :=
  if key.isNumber then EndsNumber later else Stops isWordPart later

/-- Every key ends before what can neither go on with a word nor with a number. -/
theorem EndsBefore.of_stops {key : DottedKey} {later : List Char} (word : Stops isWordPart later)
    (number : Stops (fun c => c.isDigit || c = '.') later) : key.EndsBefore later := by
  unfold EndsBefore
  split
  · exact .of_stops number
  · exact word

/-- A word begins with no digit, and so do the texts of keys that are no numbers. -/
theorem text_eq_cons (key : DottedKey) :
    ∃ first rest, key.text = first :: rest ∧ first.isDigit = key.isNumber := by
  cases key with
  | name letters word =>
    obtain ⟨first, rest, same, begins, -⟩ := isWord_eq_cons word
    exact ⟨first, rest, same, isDigit_eq_false_of_isWordStart begins⟩
  | number digits solid numeral bounded =>
    obtain ⟨first, rest, rfl⟩ := List.exists_cons_of_ne_nil solid
    exact ⟨first, rest, rfl, List.all_eq_true.mp numeral first List.mem_cons_self⟩

/-- What stands behind the dot of a number is digits. -/
theorem text_of_isNumber {key : DottedKey} (isNumber : key.isNumber = true) :
    ∃ first rest, key.text = first :: rest ∧ first.isDigit = true ∧
      ∀ c ∈ rest, c.isDigit = true := by
  cases key with
  | name letters word => cases isNumber
  | number digits solid numeral bounded =>
    obtain ⟨first, rest, rfl⟩ := List.exists_cons_of_ne_nil solid
    rw [List.all_cons, Bool.and_eq_true, List.all_eq_true] at numeral
    exact ⟨first, rest, rfl, numeral.1, numeral.2⟩

/-- A key ends before the dot of another one, unless both are numbers. -/
theorem EndsBefore.of_apart {key next : DottedKey} {later : List Char}
    (apart : ¬ (key.isNumber = true ∧ next.isNumber = true)) :
    key.EndsBefore (next.written ++ later) := by
  obtain ⟨first, rest, text, digit⟩ := next.text_eq_cons
  unfold EndsBefore
  rw [written, text, List.cons_append, List.cons_append]
  split
  · rename_i isNumber
    refine ⟨.cons (by decide), fun c more same => ?_⟩
    cases same
    have other : next.isNumber = false := by
      by_contra isTrue
      exact apart ⟨isNumber, by simpa using isTrue⟩
    rw [digit, other]
  · exact .cons (by decide)

/-- What stands behind the dot is one token where the key ends. -/
theorem cutsWhole_text {opening : Span} {start : Nat} {key : DottedKey} {later : List Char}
    (ends : key.EndsBefore later) :
    CutsWhole opening start key.text [key.token start] later := by
  cases key with
  | name letters word => exact CutsWhole.name word ends
  | number digits solid numeral bounded =>
    obtain ⟨first, rest, rfl⟩ := List.exists_cons_of_ne_nil solid
    rw [List.all_cons, Bool.and_eq_true, List.all_eq_true] at numeral
    change CutsWhole opening start (first :: rest) [⟨.number, first :: rest, start⟩] later
    exact CutsWhole.single (Cuts.numeral numeral.1 numeral.2 ends) (by decide)

/-- The reader takes a dot and what stands behind it for the key. -/
theorem readKeys_token (key : DottedKey) {input : Input} {outer : List Path} {path : Path}
    {start : Nat} {rest : List Token} (stops : path.span.stop = start)
    (before : path.span.start ≤ start) :
    Path.readKeys input outer path (⟨.dot, ['.'], start⟩ :: key.token (start + 1) :: rest) =
      Path.readKeys input outer ⟨path.anchor, path.keys ++ [key.key],
        ⟨path.span.start, start + Text.byteSize key.written⟩⟩ rest := by
  have size : start + Text.byteSize key.written = start + 1 + Text.byteSize key.text := by
    rw [written, Text.byteSize_cons, ← Nat.add_assoc]
    rfl
  rw [size]
  cases key with
  | name letters word =>
    have read := @Path.readKeys_name input outer path letters.toList start rest stops before
    rwa [String.ofList_toList] at read
  | number digits solid numeral bounded =>
    exact Path.readKeys_position stops before (Number.readIndex?_digits solid numeral bounded)

/-- The text of a key is cut into tokens that the reader takes for it. -/
theorem keyTokens {opening : Span} {start : Nat} {key : DottedKey} {later : List Char}
    (ends : key.EndsBefore later) :
    KeyTokens opening start key.written [key.key] later
      [⟨.dot, ['.'], start⟩, key.token (start + 1)] [key.key] where
  whole := CutsWhole.dot.append (cutsWhole_text ends)
  begins := by simp
  same := rfl
  read _ _ _ _ stops before := key.readKeys_token stops before

/-- Keys behind dots stop what does not go on with a dot. -/
theorem stops_written {inClass : Char → Bool} {keys : List DottedKey} {later : List Char}
    (other : inClass '.' = false) (stops : Stops inClass later) :
    Stops inClass (keys.flatMap written ++ later) := by
  cases keys with
  | nil => exact stops
  | cons key others => exact .cons other

/-- The keys have no places of their own. -/
theorem moveKeys_key (bytes : Nat) (keys : List DottedKey) :
    Path.moveKeys bytes (keys.map key) = keys.map key := by
  induction keys with
  | nil => rfl
  | cons first rest induction =>
    rw [List.map_cons, Path.moveKeys, induction]
    cases first <;> rfl

/-- No two numbers in a row of keys are next to each other. -/
def Apart (keys : List DottedKey) : Prop :=
  keys.IsChain fun key next => ¬ (key.isNumber = true ∧ next.isNumber = true)

instance (keys : List DottedKey) : Decidable (Apart keys) :=
  inferInstanceAs (Decidable (keys.IsChain _))

/-- Of keys in which the numbers are not apart, two are the first numbers next to each other. -/
theorem exists_adjacent {keys : List DottedKey} (joined : ¬ Apart keys) :
    ∃ front first second back, keys = front ++ first :: second :: back ∧
      Apart (front ++ [first]) ∧ first.isNumber = true ∧ second.isNumber = true := by
  induction keys with
  | nil => exact absurd List.IsChain.nil joined
  | cons key rest induction =>
    cases rest with
    | nil => exact absurd (List.IsChain.singleton key) joined
    | cons next others =>
      by_cases both : key.isNumber = true ∧ next.isNumber = true
      · exact ⟨[], key, next, others, rfl, List.IsChain.singleton key, both.1, both.2⟩
      · have later : ¬ Apart (next :: others) :=
          fun apart => joined (List.isChain_cons_cons.mpr ⟨both, apart⟩)
        obtain ⟨front, first, second, back, keys, apart, isNumber, also⟩ := induction later
        refine ⟨key :: front, first, second, back, by rw [keys]; rfl, ?_, isNumber, also⟩
        refine List.isChain_cons.mpr ⟨?_, apart⟩
        intro other head
        have same : other = next := by
          cases front with
          | nil =>
            cases keys
            cases head
            rfl
          | cons c more =>
            cases keys
            cases head
            rfl
        rwa [same]

/-- The text of keys in which the numbers are apart is cut into tokens that the reader takes for
them, where the last one ends. -/
theorem keyTokens_of_apart {opening : Span} {start : Nat} {keys : List DottedKey}
    {later : List Char} (apart : Apart keys) (ends : ∀ key ∈ keys.getLast?, key.EndsBefore later) :
    ∃ tokens, KeyTokens opening start (keys.flatMap written) (keys.map key) later tokens
      (keys.map key) := by
  induction keys generalizing start with
  | nil => exact ⟨[], KeyTokens.nil⟩
  | cons first rest induction =>
    have endsFirst : first.EndsBefore (rest.flatMap written ++ later) := by
      cases rest with
      | nil => exact ends first rfl
      | cons next others =>
        rw [List.flatMap_cons, List.append_assoc]
        exact EndsBefore.of_apart (List.isChain_cons_cons.mp apart).1
    have endsRest : ∀ key ∈ rest.getLast?, key.EndsBefore later := by
      intro key last
      cases rest with
      | nil => cases last
      | cons next others => exact ends key (by rwa [List.getLast?_cons_cons])
    obtain ⟨tokens, behind⟩ :=
      @induction (start + Text.byteSize first.written) (List.isChain_of_isChain_cons apart) endsRest
    exact ⟨_, (keyTokens endsFirst).append behind (by simp)⟩

end DottedKey

/-! ## Dotted paths -/

/-- A path of dotted keys as it is written. -/
structure DottedPath where
  /-- The word that the path begins with. -/
  head : String
  /-- It is a word. -/
  word : isWord head = true
  /-- The keys behind it. -/
  keys : List DottedKey

namespace DottedPath

/-- The text of the path. -/
def written (path : DottedPath) : List Char :=
  path.head.toList ++ path.keys.flatMap DottedKey.written

/-- The byte of the source at which some of the keys stop. -/
def stop (path : DottedPath) (front : List DottedKey) : Nat :=
  1 + Text.byteSize (path.head.toList ++ front.flatMap DottedKey.written)

/-- The source that is a reference to the path. -/
def source (path : DottedPath) : String :=
  String.ofList ('{' :: (path.written ++ ['}']))

/-- The template of one reference without filters, whose keys are those of the path one by one. -/
def template (path : DottedPath) : Template where
  source := path.source
  body := [.reference
    ⟨.relative, .name path.head :: path.keys.map DottedKey.key, ⟨1, path.stop path.keys⟩⟩
    [] ⟨0, path.stop path.keys + 1⟩]
  blocks := []
  path := none

/-- The brace, the word and some of the keys stop there. -/
theorem byteSize_front (path : DottedPath) (front : List DottedKey) :
    0 + Text.byteSize ('{' :: (path.head.toList ++ front.flatMap DottedKey.written)) =
      path.stop front := by
  rw [Text.byteSize_cons, Nat.zero_add]
  rfl

/-- The characters of a dotted path can stand in a reference. -/
theorem isReferencePart_of_written (path : DottedPath) :
    ∀ c ∈ path.written, isReferencePart c = true := by
  intro c mem
  rcases List.mem_append.mp mem with mem | mem
  · exact isReferencePart_of_isWord path.word c mem
  · obtain ⟨key, -, mem⟩ := List.mem_flatMap.mp mem
    rcases List.mem_cons.mp mem with rfl | mem
    · decide
    · cases key with
      | name letters word => exact isReferencePart_of_isWord word c mem
      | number digits solid numeral bounded =>
        have part := isWordPart_of_isDigit (List.all_eq_true.mp numeral c mem)
        simp [isReferencePart, part]

/-- A brace before a dotted path opens a reference. -/
theorem opens (path : DottedPath) :
    Opening.ofText (path.written ++ ['}']) = .token .openReference 0 := by
  obtain ⟨first, rest, letters, begins, -⟩ := isWord_eq_cons path.word
  have closes := @closesReference_append _ [] path.isReferencePart_of_written
  rw [written, letters, List.cons_append, List.cons_append] at closes ⊢
  exact Opening.ofText_reference (.inl begins) closes

/-- The text of the path up to some of its keys is cut into the brace, the word and the tokens of the
keys, and the reader of paths takes these tokens for keys behind the word. -/
theorem cuts_front (path : DottedPath) {front : List DottedKey} {later : List Char}
    (split : path.written ++ ['}'] = path.head.toList ++ (front.flatMap DottedKey.written ++ later))
    (apart : DottedKey.Apart front) (ends : ∀ key ∈ front.getLast?, key.EndsBefore later)
    (stops : Stops isWordPart later) :
    ∃ opening tokens,
      Cuts .text 0 ('{' :: (path.head.toList ++ front.flatMap DottedKey.written))
        (⟨.openReference, ['{'], 0⟩ :: ⟨.identifier, path.head.toList, 1⟩ :: tokens)
        (.tag opening) later ∧
      ∀ (input : Input) (rest : List Token),
        Path.read input (⟨.identifier, path.head.toList, 1⟩ :: (tokens ++ rest)) =
          Path.readKeys input [] ⟨.relative, .name path.head :: front.map DottedKey.key,
            ⟨1, path.stop front⟩⟩ rest := by
  obtain ⟨opening, brace⟩ := @Cuts.brace 0 _ path.opens
  obtain ⟨tokens, behind⟩ :=
    @DottedKey.keyTokens_of_apart opening (1 + Text.byteSize path.head.toList) front later apart ends
  have word : Stops isWordPart (front.flatMap DottedKey.written ++ later) :=
    DottedKey.stops_written (by decide) stops
  have head : Cuts (.tag opening) 1 path.head.toList [⟨.identifier, path.head.toList, 1⟩]
      (.tag opening) (front.flatMap DottedKey.written ++ later) := Cuts.name path.word word
  rw [split, ← List.append_assoc] at brace
  refine ⟨opening, tokens, brace.append (head.append behind.whole.cuts), fun input rest => ?_⟩
  rw [stop, Path.read, Path.readStart_word, behind.read _ _ _ _ rfl (Nat.le_add_right _ _),
    String.ofList_toList, Text.byteSize_append, ← Nat.add_assoc]
  rfl

end DottedPath

/-! ## Templates of one tag -/

/-- A source whose first tokens are at fault is no template, whatever follows them. -/
theorem Template.compile_of_fault {whitespace : Whitespace} {source : String} {first : Token}
    {tokens : List Token} {front later : List Char} {mode : TokenMode} {fault : Located}
    (text : source.toList = front ++ later) (cut : Cuts .text 0 front (first :: tokens) mode later)
    (failed : ∀ failure rest, Segment.read ⟨source.toList, failure⟩
      (Token.stringBody source.toList) whitespace first (tokens ++ rest) = .error fault) :
    Template.compile whitespace source = .error fault := by
  have items : (Token.stream .text 0 source.toList).withoutBlanks =
      (Token.meaningful mode (0 + Text.byteSize front) later).prepend (first :: tokens) := by
    rw [text]
    exact cut
  rw [compile, Body.ofText, items]
  simp only [Stream.prepend, List.cons_append]
  rw [Segment.stream]
  split
  · rename_i same
    rw [failed] at same
    cases same
    rfl
  · rename_i same
    rw [failed] at same
    cases same

namespace DottedPath

/-- A path in which the numbers are apart compiles to a reference with its keys. -/
theorem compile_of_apart (whitespace : Whitespace) {path : DottedPath}
    (apart : DottedKey.Apart path.keys) :
    Template.compile whitespace path.source = .ok path.template := by
  obtain ⟨head, last⟩ := Path.ofText?_word path.word
  obtain ⟨tokens, keys⟩ :=
    @DottedKey.keyTokens_of_apart default (Text.byteSize path.head.toList) path.keys ['}'] apart
      (fun _ _ => .of_stops (.cons (by decide)) (.cons (by decide)))
  have ends : TokenKind.lastInTag? path.head.toList = some .number →
      EndsNumber (path.keys.flatMap DottedKey.written ++ ['}']) := by
    rw [last]
    exact nofun
  have spelled := Path.ofText?_keys head ends
    (DottedKey.stops_written (by decide) (.cons (by decide)))
    (DottedKey.stops_written (by decide) (.cons (by decide))) keys
  have compiled := Template.compile_of_ofText? whitespace spelled path.opens
  rw [Path.move, List.singleton_append, Path.moveKeys, DottedKey.moveKeys_key] at compiled
  have stop : path.stop path.keys = Text.byteSize path.written + 1 := Nat.add_comm _ _
  rw [template, stop]
  exact compiled

/-- Where two numbers are next to each other for the first time, they are one number with a point,
which is at fault as a position. -/
theorem compile_of_adjacent (whitespace : Whitespace) {path : DottedPath}
    {front back : List DottedKey} {first second : DottedKey}
    (keys : path.keys = front ++ first :: second :: back)
    (apart : DottedKey.Apart (front ++ [first])) (isNumber : first.isNumber = true)
    (also : second.isNumber = true) :
    Template.compile whitespace path.source =
      .error ⟨.invalidIndex, ⟨path.stop front + 1, path.stop (front ++ [first, second])⟩⟩ := by
  obtain ⟨digit, rest, one, isDigit, all⟩ := first.text_of_isNumber isNumber
  obtain ⟨other, more, two, alsoDigit, others⟩ := second.text_of_isNumber also
  obtain ⟨isApart, -, joint⟩ := List.isChain_append.mp apart
  have text : path.written ++ ['}'] = path.head.toList ++ (front.flatMap DottedKey.written ++
      (first.written ++ second.written ++ (back.flatMap DottedKey.written ++ ['}']))) := by
    simp [written, keys]
  have ends : ∀ key ∈ front.getLast?, key.EndsBefore
      (first.written ++ second.written ++ (back.flatMap DottedKey.written ++ ['}'])) := by
    intro key last
    rw [List.append_assoc]
    exact DottedKey.EndsBefore.of_apart (joint key last first rfl)
  have dot : Stops isWordPart
      (first.written ++ second.written ++ (back.flatMap DottedKey.written ++ ['}'])) :=
    .cons (by decide)
  have stops : Stops Char.isDigit (back.flatMap DottedKey.written ++ ['}']) :=
    DottedKey.stops_written (by decide) (.cons (by decide))
  obtain ⟨opening, tokens, cut, read⟩ := path.cuts_front text isApart ends dot
  have fused : Cuts (.tag opening) (path.stop front) (first.written ++ second.written)
      [⟨.dot, ['.'], path.stop front⟩,
        ⟨.number, first.text ++ second.written, path.stop front + 1⟩]
      (.tag opening) (back.flatMap DottedKey.written ++ ['}']) := by
    rw [DottedKey.written, DottedKey.written, one, two]
    exact (CutsWhole.dot.cuts).append (Cuts.fraction isDigit all alsoDigit others stops)
  have unread : Number.readIndex? (first.text ++ second.written) = none := by
    rw [one]
    exact Number.readIndex?_of_point isDigit (by simp [DottedKey.written])
  have place : path.stop front + 1 + Text.byteSize (first.text ++ second.written) =
      path.stop (front ++ [first, second]) := by
    have dotted : Text.byteSize first.written = 1 + Text.byteSize first.text :=
      Text.byteSize_cons _ _
    simp only [stop, List.flatMap_append, List.flatMap_cons, List.flatMap_nil, List.append_nil,
      Text.byteSize_append, dotted]
    omega
  have source : path.source.toList = '{' :: (path.head.toList ++ front.flatMap DottedKey.written) ++
      (first.written ++ second.written) ++ (back.flatMap DottedKey.written ++ ['}']) := by
    rw [DottedPath.source, String.toList_ofList, text]
    simp
  have failed (input : Input) (rest : List Token) :
      Path.read input (⟨.identifier, path.head.toList, 1⟩ :: (tokens ++
        (⟨.dot, ['.'], path.stop front⟩ ::
          ⟨.number, first.text ++ second.written, path.stop front + 1⟩ :: rest))) =
        .error ⟨.invalidIndex, ⟨path.stop front + 1, path.stop (front ++ [first, second])⟩⟩ := by
    rw [read, ← place]
    unfold Path.readKeys
    simp [Token.index, unread, bind, Except.bind, Token.span, Token.stop]
  rw [← byteSize_front] at fused
  refine Template.compile_of_fault source (cut.append fused) fun failure rest => ?_
  rw [byteSize_front]
  simp [Segment.read, Segment.readReference, failed, bind, Except.bind]

/-- The source of a dotted path compiles to one reference without filters, whose keys are the word
and then each key in its order, if no two numbers are next to each other. Otherwise it is no
template: the first two such numbers and the dot between them are at fault as a position. -/
theorem compile_dotted (whitespace : Whitespace) (path : DottedPath) :
    (DottedKey.Apart path.keys → Template.compile whitespace path.source = .ok path.template) ∧
      (¬ DottedKey.Apart path.keys → ∃ front first second back,
        path.keys = front ++ first :: second :: back ∧
          DottedKey.Apart (front ++ [first]) ∧ first.isNumber = true ∧ second.isNumber = true ∧
          Template.compile whitespace path.source =
            .error ⟨.invalidIndex,
              ⟨path.stop front + 1, path.stop (front ++ [first, second])⟩⟩) := by
  refine ⟨compile_of_apart whitespace, fun joined => ?_⟩
  obtain ⟨front, first, second, back, keys, apart, isNumber, also⟩ :=
    DottedKey.exists_adjacent joined
  exact ⟨front, first, second, back, keys, apart, isNumber, also,
    compile_of_adjacent whitespace keys apart isNumber also⟩

/-- The word `a`, a position and a word. -/
def mixed : DottedPath :=
  ⟨"a", by decide, [.number ['1'] (by decide) (by decide) (by decide), .name "b" (by decide)]⟩

/-- The word `a` and two positions. -/
def nested : DottedPath :=
  ⟨"a", by decide, [.number ['1'] (by decide) (by decide) (by decide),
    .number ['2'] (by decide) (by decide) (by decide)]⟩

/-- A position between two words is read, and of two positions none is. -/
theorem compile_dotted_mixed :
    (mixed.source = "{a.1.b}" ∧ Template.compile .preserve mixed.source = .ok mixed.template) ∧
      nested.source = "{a.1.2}" ∧
        ∃ span, Template.compile .preserve nested.source = .error ⟨.invalidIndex, span⟩ := by
  have joined : ¬ DottedKey.Apart nested.keys := by decide
  obtain ⟨_, _, _, _, _, _, _, _, failed⟩ := (compile_dotted .preserve nested).2 joined
  exact ⟨⟨by decide, (compile_dotted .preserve mixed).1 (by decide)⟩, by decide, _, failed⟩

/-- Not every dotted path compiles to a reference: `a.1.2` does not. -/
theorem compile_nested :
    Template.compile .preserve nested.source = .error ⟨.invalidIndex, ⟨3, 6⟩⟩ ∧
      ¬ ∀ path : DottedPath, ∃ span place, Template.compile .preserve path.source =
        .ok ⟨path.source, [.reference
          ⟨.relative, .name path.head :: path.keys.map DottedKey.key, span⟩ [] place], [], none⟩ := by
  have failed := @compile_of_adjacent .preserve nested [] [] _ _ rfl (by decide) rfl rfl
  refine ⟨failed, fun all => ?_⟩
  obtain ⟨span, place, read⟩ := all nested
  rw [failed] at read
  cases read

end DottedPath

end Dust
