import Dust.Proofs.Syntax.ByteLexing
import Dust.Proofs.Syntax.Faults
import Dust.Store.Load

/-!
# What is cut out of a source

Tokens, their insides without marks, the paths of sections and the keys of close tags are cut out of
the source by bytes. All of them stand in the source, so that every cut finds the text that is read
there. With the places of faults this tells how compiling ends: with a template, or with a fault at
a place in the source.
-/

namespace Dust

variable {source : List Char}

/-! ### Marks -/

/-- The bytes of the marks before and behind what a token holds, if it has marks. -/
def TokenKind.marks? : TokenKind → Option (Nat × Nat)
  | comment | rawText => some (2, 2)
  | special => some (2, 1)
  | string => some (1, 1)
  | _ => none

/-- The span without bytes at its start and at its end, if the place of its end is so large. -/
def Span.inner? (span : Span) (left right : Nat) : Option Span :=
  (Nat.psub span.stop right).map fun stop => ⟨span.start + left, stop⟩

/-- A text begins and ends with marks of so many characters and bytes. -/
def Enclosed (left right : Nat) (text : List Char) : Prop :=
  ∃ front inside back, text = front ++ inside ++ back ∧
    (front.length = left ∧ Text.byteSize front = left) ∧
      back.length = right ∧ Text.byteSize back = right

namespace Token

/-- The text of a token has the marks of its kind. -/
def IsEnclosed (token : Token) : Prop :=
  ∀ left right, token.kind.marks? = some (left, right) → Enclosed left right token.text

/-- A token that begins with a brace has the marks of its kind. -/
theorem isEnclosed_of_opening {rest : List Char} {kind : TokenKind} {more start : Nat}
    (opening : Opening.ofText rest = .token kind more) :
    IsEnclosed ⟨kind, '{' :: rest.take more, start⟩ := by
  cases Opening.begins_of_ofText opening with
  | @comment inside length ends =>
    rintro _ _ ⟨⟩
    exact ⟨['{', '!'], inside.take length, ['!', '}'],
      by simp [take_of_distanceToMark? ends], ⟨rfl, rfl⟩, rfl, rfl⟩
  | @rawText inside length ends =>
    rintro _ _ ⟨⟩
    exact ⟨['{', '`'], inside.take length, ['`', '}'],
      by simp [take_of_distanceToMark? ends], ⟨rfl, rfl⟩, rfl, rfl⟩
  | @special inside length ends =>
    rintro _ _ ⟨⟩
    exact ⟨['{', '~'], inside.takeWhile Char.isAlpha, ['}'],
      by simp [(take_of_specialLength? ends).2], ⟨rfl, rfl⟩, rfl, rfl⟩
  | tag named goesOn =>
    unfold TokenKind.ofSigil? at named
    split at named <;> cases named <;> rintro _ _ ⟨⟩
  | reference word closes => rintro _ _ ⟨⟩

/-- A token in a tag has the marks of its kind. -/
theorem isEnclosed_of_scanTag {first : Char} {rest : List Char} {kind : TokenKind}
    {more start : Nat} (scan : scanTag first rest = .token kind more) :
    IsEnclosed ⟨kind, first :: rest.take more, start⟩ := by
  cases scansTag_of_scanTag scan with
  | string closes =>
    obtain ⟨inside, same⟩ := take_of_quotedLength? closes
    rintro _ _ ⟨⟩
    exact ⟨['"'], inside, ['"'], by simp [same], ⟨rfl, rfl⟩, rfl, rfl⟩
  | _ => rintro _ _ ⟨⟩

/-- The token that is scanned has the marks of its kind. -/
theorem isEnclosed_of_scan {mode : TokenMode} {first : Char} {rest : List Char} {kind : TokenKind}
    {more start : Nat} (scan : mode.scan first rest = .token kind more) :
    IsEnclosed ⟨kind, first :: rest.take more, start⟩ := by
  cases TokenMode.scans_of_scan scan with
  | raw | partialName => rintro _ _ ⟨⟩
  | opened opens => exact isEnclosed_of_opening opens
  | inTag scan => exact isEnclosed_of_scanTag scan

/-- The tokens of a text have the marks of their kinds. -/
theorem stream_isEnclosed (mode : TokenMode) (start : Nat) (text : List Char) :
    ∀ token ∈ (Token.stream mode start text).items, token.IsEnclosed := by
  fun_induction Token.stream mode start text with
  | case1 => simp
  | case2 => simp
  | case3 mode start first rest kind more scan token =>
    rename_i induction
    exact List.forall_mem_cons.mpr ⟨isEnclosed_of_scan scan, induction⟩

/-- What a token in the source holds without its marks stands in the source. -/
theorem IsEnclosed.inside_shows {token : Token} (enclosed : token.IsEnclosed)
    (shows : token.span.Shows source token.text) {left right : Nat}
    (marks : token.kind.marks? = some (left, right)) :
    ∃ inner, token.span.inner? left right = some inner ∧
      inner.Shows source (token.inside left right) := by
  obtain ⟨front, inside, back, text, ⟨left_length, left_size⟩, right_length, right_size⟩ :=
    enclosed left right marks
  obtain ⟨before, after, same, place⟩ := shows
  have holds : token.inside left right = inside := by
    rw [Token.inside, text, ← left_length, ← right_length]
    simp
  have less : Nat.psub token.span.stop right =
      some (Text.byteSize (before ++ front ++ inside)) := by
    refine Nat.psub_eq_some.mpr ?_
    rw [place, text, ← right_size]
    simp only [Text.byteSize_append]
    omega
  refine ⟨⟨token.span.start + left, Text.byteSize (before ++ front ++ inside)⟩,
    by rw [Span.inner?, less]; rfl, before ++ front, back ++ after, ?_, ?_⟩
  · rw [same, text, holds]
    simp
  · rw [holds, Span.mk.injEq, place, ← left_size]
    exact ⟨(Text.byteSize_append _ _).symm, rfl⟩

end Token

/-! ### Regions -/

/-- The regions of a source that are read as templates, with their texts: the source itself, and
the inside of every string with a brace in it. -/
inductive IsRead (source : List Char) : Span → List Char → Prop where
  /-- The source itself. -/
  | whole : IsRead source ⟨0, Text.byteSize source⟩ source
  /-- The inside of a string in a region that is read. -/
  | string {span inner : Span} {text : List Char} {token : Token} (around : IsRead source span text)
      (mem : token ∈ (Token.meaningful .text span.start text).items)
      (kind : token.kind = .string) (brace : '{' ∈ token.inside 1 1)
      (place : token.span.inner? 1 1 = some inner) : IsRead source inner (token.inside 1 1)

/-- The tokens of a text that stands in the source stand there themselves. -/
theorem Span.Shows.placed {span : Span} {text : List Char} (shows : span.Shows source text) :
    Token.Placed source (Token.meaningful .text span.start text).items := by
  obtain ⟨before, after, same, rfl⟩ := shows
  exact (Token.meaningful_placedFrom .text _ text same rfl).placed

/-- The tokens of a text have the marks of their kinds. -/
theorem Token.meaningful_isEnclosed {start : Nat} {text : List Char} {token : Token}
    (mem : token ∈ (Token.meaningful .text start text).items) : token.IsEnclosed :=
  Token.stream_isEnclosed .text start text token (List.mem_of_mem_filter mem)

/-- A region that is read stands in the source. -/
theorem IsRead.shows {span : Span} {text : List Char} (read : IsRead source span text) :
    span.Shows source text := by
  induction read with
  | whole => exact ⟨[], [], by simp, by simp [Text.byteSize_nil]⟩
  | string around mem kind brace place induction =>
    obtain ⟨inner, same, shows⟩ := (Token.meaningful_isEnclosed mem).inside_shows
      (induction.placed.shown _ mem) (by rw [kind]; rfl)
    cases place.symm.trans same
    exact shows

/-! ### Cuts -/

/-- The text at a span of a source. -/
def Span.cut? (span : Span) (source : List Char) : Option (List Char) :=
  Text.slice? source span.start span.stop

/-- Reading a region cuts out nothing but what stands in the source. -/
structure CutsWhatIsThere (source : List Char) (span : Span) (text : List Char) : Prop where
  /-- The region has its text. -/
  region : span.cut? source = some text
  /-- Its tokens are found by bytes at the places where they stand. -/
  tokens : Region.stream? ⟨source, span.stop⟩ .text span.start =
    some ⟨(Token.stream .text span.start text).items.map Region.shape,
      (Token.stream .text span.start text).failure⟩
  /-- The text of a token is at its span. -/
  texts : ∀ token ∈ (Token.meaningful .text span.start text).items,
    token.span.cut? source = some token.text
  /-- What a token holds is at its span without the bytes of its marks. -/
  insides : ∀ token ∈ (Token.meaningful .text span.start text).items,
    ∀ left right, token.kind.marks? = some (left, right) →
      ∃ inner, token.span.inner? left right = some inner ∧
        inner.cut? source = some (token.inside left right)
  /-- The text of a path is at its span, wherever it is read. -/
  paths : ∀ input tokens path left, tokens <:+ (Token.meaningful .text span.start text).items →
    Path.read input tokens = .ok (path, left) →
      path.span.cut? source = some (path.span.textIn source)
  /-- The key of a close tag is at its span, wherever it is taken. -/
  keys : ∀ tokens first more, tokens <:+ (Token.meaningful .text span.start text).items →
    tokens.takeWhile (·.kind ≠ .tagEnd) = first :: more →
      (first.spanOf more).cut? source = some ((first.spanOf more).textIn source)

/-- A span in a source shows the text that is cut out there. -/
theorem Span.IsIn.shows {span : Span} (inside : span.IsIn source) :
    span.Shows source (span.textIn source) := by
  obtain ⟨⟨before, opened, start⟩, ⟨through, closed, stop⟩, le⟩ := inside
  obtain ⟨text, rfl⟩ := Text.prefix_of_byteSize_le opened closed (by rw [start, stop]; exact le)
  obtain ⟨after, rfl⟩ := closed
  have shows : span.Shows (before ++ text ++ after) text :=
    ⟨before, after, rfl, by rw [start, stop]⟩
  rw [Span.textIn, shows.slice?]
  exact shows

/-- The text at a span in a source is what is cut out there. -/
theorem Span.IsIn.cut? {span : Span} (inside : span.IsIn source) :
    span.cut? source = some (span.textIn source) :=
  inside.shows.slice?

/-- The span of tokens in a row that stand in the source lies in it. -/
theorem Token.spanOf_isIn {first : Token} {more : List Token} (opened : first.span.IsIn source)
    (others : ∀ token ∈ more, token.span.IsIn source) : (first.spanOf more).IsIn source :=
  List.foldlRecOn more _ opened fun _ inside token mem => inside.cover (others token mem)

/-- Reading a region of a source cuts out nothing but what stands in it. -/
theorem IsRead.cuts {span : Span} {text : List Char} (read : IsRead source span text) :
    CutsWhatIsThere source span text where
  region := read.shows.slice?
  tokens := Region.stream?_eq .text read.shows trivial
  texts token mem := (read.shows.placed.shown token mem).slice?
  insides token mem left right marks := by
    obtain ⟨inner, same, shows⟩ := (Token.meaningful_isEnclosed mem).inside_shows
      (read.shows.placed.shown token mem) marks
    exact ⟨inner, same, shows.slice?⟩
  paths input tokens path left suffix found := by
    have meets := Path.read_meets (read.shows.placed.suffix suffix) found
    obtain ⟨anchor, keys, span⟩ := path
    exact Span.IsIn.cut? meets.1
  keys tokens first more suffix taken := by
    have inside : ∀ token ∈ first :: more, token.span.IsIn source := fun token mem =>
      read.shows.placed.isIn
        (suffix.mem ((List.takeWhile_prefix _).mem (by rwa [taken])))
    obtain ⟨opened, others⟩ := List.forall_mem_cons.mp inside
    exact (Token.spanOf_isIn opened others).cut?

/-! ### Compiling -/

/-- Compiling ends with a template or with a fault of the syntax at a place in the source, and cuts
nothing out of the source but what stands there. -/
theorem compileSource_isControlled (whitespace : Whitespace) (source : String) :
    ((∃ template, compileSource whitespace source = .ok template) ∨
      ∃ fault span, compileSource whitespace source =
          .error { fault := .malformed fault, location := some ⟨source, span⟩ } ∧
        span.start ≤ span.stop ∧ span.stop ≤ Text.byteSize source.toList ∧
          span.IsIn source.toList) ∧
      ∀ span text, IsRead source.toList span text → CutsWhatIsThere source.toList span text := by
  refine ⟨?_, fun span text read => read.cuts⟩
  unfold compileSource
  cases compiled : Template.compile whitespace source with
  | ok template => exact .inl ⟨template, rfl⟩
  | error located =>
    have inside := Template.compile_failsIn whitespace source located compiled
    exact .inr ⟨located.fault, located.span, rfl, inside.le, inside.stop_le, inside⟩

end Dust
