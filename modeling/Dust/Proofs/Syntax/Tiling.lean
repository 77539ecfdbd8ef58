import Mathlib
import Dust.Proofs.Syntax.Lexer
import Dust.Proofs.Syntax.Slices

/-!
# Tokens tile a region

The tokens of a region stand in it without a gap, from its start on and up to its end, or up to
where they end before a fault. None of them is empty, and none cuts a character, so that their
texts in a row are the text of the region, or what it begins with.
-/

namespace Dust

namespace Span

variable {source : List Char} {start middle stop : Nat} {spans : List Span}

/-! ### Tilings -/

/-- Spans tile a source from one byte to another one: each of them begins where the one before it
ends, is not empty, and cuts no character. -/
inductive Tiling (source : List Char) : Nat → List Span → Nat → Prop
  /-- No spans tile nothing, between two characters. -/
  | nil {byte : Nat} (cut : IsCut source byte) : Tiling source byte [] byte
  /-- A span comes first. -/
  | cons {start middle stop : Nat} {spans : List Span} (cut : IsCut source start)
    (advances : start < middle) (rest : Tiling source middle spans stop) :
    Tiling source start (⟨start, middle⟩ :: spans) stop

namespace Tiling

/-- A tiling begins between two characters. -/
theorem isCut_start (tiling : Tiling source start spans stop) : IsCut source start := by
  cases tiling <;> assumption

/-- A tiling does not end before it begins. -/
theorem start_le_stop (tiling : Tiling source start spans stop) : start ≤ stop := by
  induction tiling with
  | nil => exact Nat.le_refl _
  | cons _ advances _ induction => exact Nat.le_trans (Nat.le_of_lt advances) induction

/-- The texts of the spans stand in the source, one behind the other. -/
theorem shows (tiling : Tiling source start spans stop) :
    Shows source ⟨start, stop⟩ (spans.flatMap (textIn · source)) := by
  induction tiling with
  | nil cut =>
    obtain ⟨before, ⟨after, rfl⟩, rfl⟩ := cut
    exact ⟨before, after, by simp, by simp⟩
  | cons cut advances rest induction =>
    have le := Nat.le_of_lt advances
    have opened : IsIn source ⟨_, _⟩ := ⟨cut, rest.isCut_start, le⟩
    have both := opened.shows.append induction rfl
    rwa [cover_eq le rest.start_le_stop] at both

/-- The first spans of a tiling tile what they stand in. -/
theorem front {firsts : List Span} (tiling : Tiling source start spans stop)
    (front : firsts <+: spans) : ∃ middle ≤ stop, Tiling source start firsts middle := by
  induction tiling generalizing firsts with
  | nil cut =>
    rw [List.prefix_nil.mp front]
    exact ⟨_, Nat.le_refl _, .nil cut⟩
  | cons cut advances rest induction =>
    cases firsts with
    | nil => exact ⟨_, Nat.le_trans (Nat.le_of_lt advances) rest.start_le_stop, .nil cut⟩
    | cons first firsts =>
      obtain ⟨rfl, later⟩ := List.cons_prefix_cons.mp front
      obtain ⟨middle, le, tiling⟩ := induction later
      exact ⟨middle, le, .cons cut advances tiling⟩

end Tiling

/-- Spans that end with a fault, or without one, tile a region of a source: from its start on, and
up to its end unless there is a fault. -/
structure IsTiled (region : Span) (source : List Char) (spans : List Span)
    (failure : Option Located) : Prop where
  /-- The spans tile the region up to one of its bytes. -/
  upTo : ∃ stop ≤ region.stop, Tiling source region.start spans stop
  /-- Without a fault they tile all of it. -/
  all : failure = none → Tiling source region.start spans region.stop
  /-- Their texts in a row are what the region begins with. -/
  texts : spans.flatMap (textIn · source) <+: region.textIn source
  /-- Without a fault they are the text of the region. -/
  whole : failure = none → spans.flatMap (textIn · source) = region.textIn source

/-- Of two texts that begin at one place, the one that ends first begins the other. -/
theorem Shows.isPrefix {front back : List Char} (first : Shows source ⟨start, middle⟩ front)
    (second : Shows source ⟨start, stop⟩ back) (le : middle ≤ stop) : front <+: back := by
  obtain ⟨text, shows, begins, _⟩ := first.cover second (Nat.le_refl start) le
  rw [cover_eq (Nat.le_refl start) le] at shows
  cases shows.slice?.symm.trans second.slice?
  exact begins

/-- A tiling of what a region begins with, up to its end if there is no fault. -/
theorem IsTiled.of_tiling {region : Span} {failure : Option Located} (inside : region.IsIn source)
    (tiling : Tiling source region.start spans stop) (le : stop ≤ region.stop)
    (ends : failure = none → stop = region.stop) : region.IsTiled source spans failure where
  upTo := ⟨stop, le, tiling⟩
  all sound := ends sound ▸ tiling
  texts := tiling.shows.isPrefix inside.shows le
  whole sound := by
    have all := tiling.shows
    rw [ends sound] at all
    exact Option.some.inj (all.slice?.symm.trans inside.shows.slice?)

end Span

/-! ### Tokens -/

section

variable {region : Region} {byte : Nat} {text : List Char}

/-- The tokens of a text tile the region that it stands in. -/
theorem Token.stream_tiling (mode : TokenMode) (holds : region.Holds byte text) :
    ∃ stop ≤ region.stop,
      Span.Tiling region.source byte ((stream mode byte text).items.map span) stop ∧
        ((stream mode byte text).failure = none → stop = region.stop) := by
  have cut := holds.isIn.start
  fun_induction stream mode byte text with
  | case1 mode byte =>
    have ends : byte = region.stop := holds.stop.symm
    exact ⟨byte, Nat.le_of_eq ends, .nil cut, fun _ => ends⟩
  | case2 mode byte first rest fault more scan =>
    exact ⟨byte, Nat.le_of_lt holds.lt, .nil cut, fun sound => by cases sound⟩
  | case3 mode byte first rest kind more scan token =>
    rename_i induction
    have behind := holds.after more
    obtain ⟨stop, le, tiling, ends⟩ := induction behind behind.isIn.start
    have advances : byte < token.stop := Text.lt_add_byteSize_cons ..
    exact ⟨stop, le, .cons cut advances tiling, ends⟩

/-- The text of a token stands at its place. -/
theorem Token.stream_shows (mode : TokenMode) (holds : region.Holds byte text) :
    ∀ token ∈ (stream mode byte text).items, token.span.Shows region.source token.text := by
  fun_induction stream mode byte text with
  | case1 => simp
  | case2 => simp
  | case3 mode byte first rest kind more scan token =>
    rename_i induction
    have shown : token.span.Shows region.source token.text := by
      obtain ⟨before, after, same, place⟩ := holds
      exact Span.Shows.taken same (Span.mk.inj place).1 more
    exact List.forall_mem_cons.mpr ⟨shown, induction (holds.after more)⟩

end

/-- What a lexer hands out tiles what the tokens of the text tile, up to a place before a fault. -/
theorem Lexer.Reads.tiling {source : List Char} {start stop : Nat}
    {lexed : Stream (TokenKind × Span)} {stream : Stream Token} (reads : Reads lexed stream)
    (tiling : Span.Tiling source start (stream.items.map Token.span) stop) :
    ∃ middle ≤ stop, Span.Tiling source start (lexed.items.map Prod.snd) middle ∧
      (lexed.failure = none → middle = stop) := by
  have spans : (stream.items.map Region.shape).map Prod.snd = stream.items.map Token.span := by
    rw [List.map_map]
    rfl
  by_cases sound : stream.failure = none
  · rw [reads.all sound, spans]
    exact ⟨stop, Nat.le_refl stop, tiling, fun _ => rfl⟩
  · obtain ⟨middle, le, front⟩ := tiling.front (spans ▸ reads.items.map Prod.snd)
    exact ⟨middle, le, front, fun handed => absurd (reads.failure.symm.trans handed) sound⟩

/-- Tokens tile the source. A lexer of any region of a source that cuts no character comes to an
end, in one way. The tokens that it hands out, blank ones included, tile the region from its start
on: up to its end, so that their texts in a row are the text of the region, or up to a place before
a fault. They are the tokens that the text of the region is cut into, which tile it as well: all of
them if there is no fault, and otherwise all but raw text before a brace that is at fault. -/
theorem tokens_tile {source : List Char} {region : Span} (inside : region.IsIn source) :
    ∃ lexed, (Lexer.ofRegion source region).Runs lexed ∧
      (∀ other, (Lexer.ofRegion source region).Runs other → other = lexed) ∧
      region.IsTiled source (lexed.items.map Prod.snd) lexed.failure ∧
      Lexer.Reads lexed (Token.stream .text region.start (region.textIn source)) ∧
      region.IsTiled source
        ((Token.stream .text region.start (region.textIn source)).items.map Token.span)
        (Token.stream .text region.start (region.textIn source)).failure ∧
      ∀ token ∈ (Token.stream .text region.start (region.textIn source)).items,
        token.text = token.span.textIn source := by
  have holds : Region.Holds ⟨source, region.stop⟩ region.start (region.textIn source) :=
    inside.shows
  obtain ⟨lexed, runs, reads⟩ := @Lexer.exists_runs _ .text _ _ holds trivial
  obtain ⟨stop, le, tiling, ends⟩ := Token.stream_tiling .text holds
  obtain ⟨middle, before, handed, handed_ends⟩ := reads.tiling tiling
  refine ⟨lexed, runs, fun other again => again.unique runs, ?_, reads, ?_, ?_⟩
  · exact .of_tiling inside handed (Nat.le_trans before le) fun sound =>
      (handed_ends sound).trans (ends (reads.failure.symm.trans sound))
  · exact .of_tiling inside tiling le ends
  · intro token mem
    have shows := Token.stream_shows .text holds token mem
    rw [Span.textIn, shows.slice?]
    rfl

/-- The source `ü{a}b{! c`, with a comment that is not closed. -/
def unclosedSource : List Char := "ü\x7ba\x7db\x7b! c".toList

/-- The lexer of `unclosedSource` behind its first character, between two tokens. -/
def unclosedLexer (cursor : Nat) (mode : TokenMode) : Lexer :=
  ⟨⟨unclosedSource, 10⟩, cursor, mode, none⟩

/-- Behind `ü`, which has two bytes, stands a reference of three tokens. The `b` behind it is not
handed out, as the comment after it is not closed. -/
theorem tokens_tile_reference :
    Span.IsIn unclosedSource ⟨2, 10⟩ ∧
      (Lexer.ofRegion unclosedSource ⟨2, 10⟩).Runs
        ⟨[(.openReference, ⟨2, 3⟩), (.identifier, ⟨3, 4⟩), (.tagEnd, ⟨4, 5⟩)],
          some ⟨.unclosedComment, 6, 8⟩⟩ ∧
      Span.IsTiled ⟨2, 10⟩ unclosedSource [⟨2, 3⟩, ⟨3, 4⟩, ⟨4, 5⟩]
        (some ⟨.unclosedComment, 6, 8⟩) := by
  have inside : Span.IsIn unclosedSource ⟨2, 10⟩ :=
    ⟨⟨['ü'], by decide, by decide⟩, ⟨unclosedSource, by decide, by decide⟩, by decide⟩
  have failed : (unclosedLexer 5 .text).Runs ⟨[], some ⟨.unclosedComment, 6, 8⟩⟩ :=
    .failed (by cbv)
  have closed : (unclosedLexer 4 (.tag ⟨2, 3⟩)).Runs
      ⟨[(.tagEnd, ⟨4, 5⟩)], some ⟨.unclosedComment, 6, 8⟩⟩ := .token (by cbv) failed
  have named : (unclosedLexer 3 (.tag ⟨2, 3⟩)).Runs
      ⟨[(.identifier, ⟨3, 4⟩), (.tagEnd, ⟨4, 5⟩)], some ⟨.unclosedComment, 6, 8⟩⟩ :=
    .token (by cbv) closed
  have opened : (unclosedLexer 2 .text).Runs
      ⟨[(.openReference, ⟨2, 3⟩), (.identifier, ⟨3, 4⟩), (.tagEnd, ⟨4, 5⟩)],
        some ⟨.unclosedComment, 6, 8⟩⟩ := .token (by cbv) named
  obtain ⟨lexed, _, unique, tiled, _⟩ := tokens_tile inside
  obtain rfl := unique _ opened
  exact ⟨inside, opened, tiled⟩

end Dust
