import Dust.Proofs.Syntax.Extent
import Dust.Proofs.Syntax.Taking

/-!
# Keys without braces

The key of an open tag is a name or the text of a path, and holds no opening brace. The key of a
close tag is everything up to the end of some tag. If it is the key of an open tag, then it holds no
opening brace, so that no other tag is opened in it.
-/

namespace Dust

variable {source : List Char} {input : Input} {tokens rest : List Token}

/-! ### Tokens of paths -/

/-- What belongs to a class without the opening brace holds none. -/
theorem brace_not_mem_takeWhile {inClass : Char → Bool} (outside : inClass '{' = false)
    (text : List Char) : '{' ∉ text.takeWhile inClass := by
  intro mem
  have inside := List.mem_takeWhile_imp mem
  rw [outside] at inside
  cases inside

/-- A number holds no opening brace. -/
theorem brace_not_mem_number (text : List Char) : '{' ∉ text.take (numberLength text) := by
  have noBrace := brace_not_mem_takeWhile (show Char.isDigit '{' = false by decide)
  by_cases point : ∃ next rest, text.dropWhile Char.isDigit = '.' :: next :: rest ∧
      next.isDigit = true
  · obtain ⟨next, rest, behind, digit⟩ := point
    have begins :
        text.takeWhile Char.isDigit ++ '.' :: next :: rest.takeWhile Char.isDigit <+: text := by
      refine ⟨rest.dropWhile Char.isDigit, ?_⟩
      rw [List.append_assoc, List.cons_append, List.cons_append, List.takeWhile_append_dropWhile,
        ← behind, List.takeWhile_append_dropWhile]
    have taken := List.prefix_iff_eq_take.mp begins
    rw [List.length_append, List.length_cons, List.length_cons,
      ← numberLength_of_point behind digit] at taken
    have other : next ≠ '{' := by
      rintro rfl
      cases digit
    simp [← taken, noBrace, Ne.symm other]
  · rw [numberLength_of_whole fun next rest behind =>
      Bool.eq_false_iff.mpr fun digit => point ⟨next, rest, behind, digit⟩]
    rw [Text.take_length_takeWhile]
    exact noBrace text

/-- A token that paths are made of holds no opening brace. -/
def Token.IsPlain (token : Token) : Prop :=
  token.kind.inPath = true → '{' ∉ token.text

/-- No token in a tag begins with an opening brace. -/
theorem ne_brace_of_scanTag {first : Char} {rest : List Char} {kind : TokenKind} {more : Nat}
    (scan : scanTag first rest = .token kind more) : first ≠ '{' := by
  rintro rfl
  have never : scanTag '{' rest = .fault .unexpectedCharacter 0 := by
    simp [scanTag, isTagSpace, show isWordStart '{' = false by decide]
  rw [never] at scan
  cases scan

/-- A token that is scanned in a tag is plain. -/
theorem Token.isPlain_of_scanTag {first : Char} {rest : List Char} {kind : TokenKind}
    {more start : Nat} (scan : scanTag first rest = .token kind more) :
    IsPlain ⟨kind, first :: rest.take more, start⟩ := by
  intro inPath
  have other := ne_brace_of_scanTag scan
  have noBrace : '{' ∉ rest.take more := by
    cases scansInPath_of_scanTag scan (.inl inPath) with
    | mark always => simp
    | number begins => exact brace_not_mem_number rest
    | space begins => cases inPath
    | word begins =>
      rw [Text.take_length_takeWhile]
      exact brace_not_mem_takeWhile (by decide) rest
  exact fun mem => (List.mem_cons.mp mem).elim (fun same => other same.symm) noBrace

/-- No token that a brace opens is one that paths are made of. -/
theorem TokenKind.inPath_eq_false_of_ofText {rest : List Char} {kind : TokenKind} {more : Nat}
    (opening : Opening.ofText rest = .token kind more) : kind.inPath = false := by
  cases Opening.begins_of_ofText opening with
  | comment | rawText | special | reference => rfl
  | tag named goesOn =>
    unfold TokenKind.ofSigil? at named
    split at named <;> cases named <;> rfl

/-- The token that is scanned is plain. -/
theorem Token.isPlain_of_scan {mode : TokenMode} {first : Char} {rest : List Char}
    {kind : TokenKind} {more start : Nat} (scan : mode.scan first rest = .token kind more) :
    IsPlain ⟨kind, first :: rest.take more, start⟩ := by
  cases TokenMode.scans_of_scan scan with
  | raw | partialName => nofun
  | opened opens =>
    intro inPath
    rw [TokenKind.inPath_eq_false_of_ofText opens] at inPath
    cases inPath
  | inTag scan => exact isPlain_of_scanTag scan

/-- The tokens of a text are plain. -/
theorem Token.stream_isPlain (mode : TokenMode) (start : Nat) (text : List Char) :
    ∀ token ∈ (Token.stream mode start text).items, token.IsPlain := by
  fun_induction Token.stream mode start text with
  | case1 => simp
  | case2 => simp
  | case3 mode start first rest kind more scan token =>
    rename_i induction
    exact List.forall_mem_cons.mpr ⟨isPlain_of_scan scan, induction⟩

/-! ### Tokens in a row -/

/-- Blank space holds no opening brace. -/
theorem Span.IsBlank.plain {span : Span} (blank : span.IsBlank source) :
    ∃ text, span.Shows source text ∧ '{' ∉ text := by
  obtain ⟨blanks, shows, all⟩ := blank
  refine ⟨blanks, shows, fun mem => ?_⟩
  have brace := all '{' mem
  cases brace

/-- Between the first of some tokens that hold no opening brace and the token after them stands no
opening brace. -/
theorem Token.Laid.row_plain {stop : Nat} {next : Token} {later : List Token} :
    ∀ {row more : List Token} {first : Token}, Token.Laid source stop (first :: more) →
      first :: more = row ++ next :: later → (∀ token ∈ row, '{' ∉ token.text) →
        ∃ text, Span.Shows source ⟨first.start, next.start⟩ text ∧ '{' ∉ text
  | [], more, first, laid, same, plain => by
    obtain ⟨rfl, -⟩ := List.cons.inj same
    exact (laid.placed.shown first List.mem_cons_self).isBlank_start.plain
  | token :: row, more, first, laid, same, plain => by
    obtain ⟨rfl, behind⟩ := List.cons.inj same
    obtain ⟨noBrace, others⟩ := List.forall_mem_cons.mp plain
    cases more with
    | nil => simp at behind
    | cons second more =>
      obtain ⟨back, back_shows, back_plain⟩ := laid.tail.row_plain behind others
      obtain ⟨gap, gap_shows, gap_plain⟩ := (laid.gaps first second ⟨[], more, rfl⟩).plain
      have front_shows := laid.placed.shown first List.mem_cons_self
      exact ⟨_, front_shows.join (gap_shows.join back_shows),
        by simp [noBrace, gap_plain, back_plain]⟩

/-- What stands at a span stands in what is at a span around it. -/
theorem Span.Shows.isInfix {room span : Span} {text part : List Char} (outer : room.Shows source text)
    (inner : span.Shows source part) (around : room.Encloses span) : part <:+: text := by
  obtain ⟨before, after, same, rfl⟩ := outer
  obtain ⟨front, back, again, rfl⟩ := inner
  have before_begins : before <+: source := ⟨text ++ after, by rw [same, List.append_assoc]⟩
  have front_begins : front <+: source := ⟨part ++ back, by rw [again, List.append_assoc]⟩
  have begins : before <+: front :=
    Text.prefix_of_byteSize_le before_begins front_begins around.start
  have ends : front ++ part <+: before ++ text :=
    Text.prefix_of_byteSize_le ⟨back, again.symm⟩ ⟨after, same.symm⟩ around.stop
  obtain ⟨middle, rfl⟩ := begins
  rw [List.append_assoc, List.prefix_append_right_inj] at ends
  exact (List.suffix_append middle part).isInfix.trans ends.isInfix

/-- The text of a path that is read before another token holds no opening brace. -/
theorem Path.plain_of_read {stop : Nat} {path : Path} {next : Token}
    (laid : Token.Laid source stop tokens) (plain : ∀ token ∈ tokens, token.IsPlain)
    (read : Path.read input tokens = .ok (path, next :: rest)) :
    '{' ∉ path.span.textIn source := by
  obtain ⟨taken, split, kinds⟩ := Path.read_takes read
  obtain ⟨first, more, same, -⟩ := Path.readStart_suffix read
  rw [same] at laid
  have noBrace : ∀ token ∈ taken, '{' ∉ token.text := fun token mem =>
    plain token (split ▸ List.mem_append_left _ mem) (kinds token mem)
  obtain ⟨text, shows, free⟩ := laid.row_plain (same ▸ split) noBrace
  have spans : Span.Spans ⟨first.start, next.start⟩ (first :: more) (next :: rest) := by
    refine ⟨List.forall_mem_cons.mpr ⟨Nat.le_refl _, fun token mem => ?_⟩,
      fun stop before => before next List.mem_cons_self⟩
    exact Nat.le_trans first.start_le_stop (laid.placed.ahead token mem)
  obtain ⟨-, within⟩ := Path.read_nested laid.placed spans (same ▸ read)
  have inside : path.span.IsIn source := by
    have meets := Path.read_meets laid.placed (same ▸ read)
    cases path
    exact meets.1
  exact fun mem => free ((shows.isInfix inside.shows within).mem mem)

/-! ### Keys of open tags -/

/-- The key that a close tag has to repeat. -/
def OpenTag.key : OpenTag → String
  | .element _ _ key _ _ _ _ => key
  | .block name _ => name.name

/-- A tag that is opened has a key without opening braces. -/
def Segment.OpensPlainly (segment : Segment) : Prop :=
  ∀ tag, segment = .opening tag → '{' ∉ tag.key.toList

/-- A tag that is closed has a key without opening braces. -/
def Segment.ClosesPlainly (segment : Segment) : Prop :=
  ∀ key span, segment = .closing key span → '{' ∉ key.toList

namespace Segment

variable {readString : Token → Except Located Body} {first : Token} {segment : Segment} {stop : Nat}

/-- A section or helper is opened with the key that has been read before. -/
theorem readElement_opensPlainly {head : Head} {key : String} (plain : '{' ∉ key.toList)
    (read : readElement input readString first head key tokens = .ok (segment, rest)) :
    segment.OpensPlainly := by
  obtain ⟨params, last, -, complete | opened⟩ := readElement_cases read
  · nofun
  · rintro _ ⟨⟩
    exact plain

/-- A name holds no opening brace. -/
theorem plain_of_name {name : Token} (plain : name.IsPlain) (word : name.kind = .identifier) :
    '{' ∉ name.string.toList := by
  rw [Token.string, String.toList_ofList]
  exact plain (by rw [word]; rfl)

/-- A section is opened with the text of its path. -/
theorem readSection_opensPlainly {kind : SectionKind} (laid : Token.Laid input.source stop tokens)
    (plain : ∀ token ∈ tokens, token.IsPlain)
    (read : readSection input readString kind first tokens = .ok (segment, rest)) :
    segment.OpensPlainly := by
  obtain ⟨⟨path, afterPath⟩, pathRead, read⟩ := bind_eq_ok read
  refine readElement_opensPlainly ?_ read
  rw [String.toList_ofList]
  cases afterPath with
  | nil => simp [readElement, Param.readAll, Input.takeTagEnd, bind, Except.bind] at read
  | cons next later => exact Path.plain_of_read laid plain pathRead

/-- A helper is opened with its name. -/
theorem readHelper_opensPlainly (plain : ∀ token ∈ tokens, token.IsPlain)
    (read : readHelper input readString first tokens = .ok (segment, rest)) :
    segment.OpensPlainly := by
  obtain ⟨⟨name, afterName⟩, nameRead, elementRead⟩ := bind_eq_ok read
  obtain ⟨rfl, word⟩ := Input.take_eq_ok nameRead
  exact readElement_opensPlainly (plain_of_name (plain name List.mem_cons_self) word) elementRead

/-- A block or inline partial is opened with its name. -/
theorem readBlock_opensPlainly {defines : Bool} (plain : ∀ token ∈ tokens, token.IsPlain)
    (read : readBlock input defines tokens = .ok (segment, rest)) : segment.OpensPlainly := by
  obtain ⟨name, last, rfl, word, read⟩ := readBlock_cases read
  cases read with
  | definition | block => nofun
  | opened =>
    rintro _ ⟨⟩
    exact plain_of_name (plain name List.mem_cons_self) word

/-- A tag that is read is opened with a key without opening braces. -/
theorem read_opensPlainly {whitespace : Whitespace} (laid : Token.Laid input.source stop tokens)
    (plain : ∀ token ∈ tokens, token.IsPlain)
    (found : read input readString whitespace first tokens = .ok (segment, rest)) :
    segment.OpensPlainly := by
  rcases read_cases found with ⟨kind, found⟩ | ⟨-, found⟩ | ⟨defines, -, found⟩ | ⟨flat, -⟩
  · exact readSection_opensPlainly laid plain found
  · exact readHelper_opensPlainly plain found
  · exact readBlock_opensPlainly plain found
  · rintro tag rfl
    cases flat

/-- The tags of a stream are opened with keys without opening braces. -/
theorem stream_opensPlainly (whitespace : Whitespace) (laid : Token.Laid input.source stop tokens)
    (plain : ∀ token ∈ tokens, token.IsPlain) :
    ∀ segment ∈ (stream input readString whitespace tokens).items, segment.OpensPlainly := by
  fun_induction stream input readString whitespace tokens with
  | case1 => simp
  | case2 => simp
  | case3 first rest segment later found induction =>
    have suffix := read_suffix found
    have rest_plain := (List.forall_mem_cons.mp plain).2
    exact List.forall_mem_cons.mpr ⟨read_opensPlainly laid.tail rest_plain found,
      induction (laid.tail.suffix suffix) fun token mem => rest_plain token (suffix.mem mem)⟩

/-! ### Keys of close tags -/

/-- The span of tokens in a row is around each of them. -/
theorem spanOf_encloses {first token : Token} {more : List Token}
    (ordered : (first :: more).Pairwise fun token later => token.stop ≤ later.start)
    (mem : token ∈ first :: more) : (first.spanOf more).Encloses token.span := by
  obtain ⟨before, final, row, span⟩ := Token.spanOf_eq ordered
  have behind : first.start ≤ token.start := by
    rcases List.mem_cons.mp mem with rfl | mem
    · exact Nat.le_refl _
    · exact Nat.le_trans first.start_le_stop ((List.pairwise_cons.mp ordered).1 token mem)
  have ahead : token.stop ≤ final.stop := by
    rw [row] at mem ordered
    rcases List.mem_append.mp mem with mem | mem
    · have le := (List.pairwise_append.mp ordered).2.2 token mem final List.mem_cons_self
      exact Nat.le_trans le final.start_le_stop
    · rw [List.mem_singleton.mp mem]
  rw [span]
  exact ⟨behind, ahead⟩

/-- A key without opening braces stands before the end of its own close tag. -/
theorem takeCloseKey_staysInside {key : String} (laid : Token.Laid input.source stop tokens)
    (taken : input.takeCloseKey tokens = .ok (key, rest)) (plain : '{' ∉ key.toList) :
    Takes TokenKind.staysInside tokens rest := by
  obtain ⟨opened, more, rfl, rfl⟩ := Input.takeCloseKey_eq_ok taken
  have row : opened :: more <+: opened :: more ++ rest := List.prefix_append _ _
  have ordered := laid.placed.ordered.sublist row.sublist
  refine ⟨opened :: more, rfl, fun token mem => ?_⟩
  by_contra opens
  have opens : token.kind.opensTag = true := by simpa [TokenKind.staysInside] using opens
  have brace := (laid.marked token (row.mem mem)).brace opens
  have inside : ∀ token ∈ opened :: more, token.span.IsIn input.source :=
    fun token mem => laid.placed.isIn (row.mem mem)
  obtain ⟨first_inside, others⟩ := List.forall_mem_cons.mp inside
  have within := (Token.spanOf_isIn first_inside others).shows.isInfix
    (laid.placed.shown token (row.mem mem)) (spanOf_encloses ordered mem)
  rw [String.toList_ofList] at plain
  exact plain (within.mem (brace.mem List.mem_cons_self))

/-- A close tag whose key holds no opening braces stays inside of itself. -/
theorem readClosing_staysInside (laid : Token.Laid input.source stop tokens)
    (read : readClosing input first tokens = .ok (segment, rest)) (plain : segment.ClosesPlainly) :
    Takes TokenKind.staysInside tokens rest := by
  obtain ⟨key, last, keyRead, ends, rfl⟩ := readClosing_eq_ok read
  exact (takeCloseKey_staysInside laid keyRead (plain _ _ rfl)).trans (.one (by rw [ends]; rfl))

end Segment

end Dust
