import Dust.Proofs.Syntax.PlainKeys

/-!
# Collecting inline partials

Inline partials are set aside by name while the tags around them are still open. What is known of
them at some point are the names that have been set aside and those of the inline partials that are
open, and every segment adds the names that it defines. No tag is opened inside of another one, so
the names that the segments of a source define are those behind the openings among its tokens. The
tags of a string are read on their own, and the inline partials among them are dropped.
-/

namespace Dust

/-- The names of the inline partials that are opened among tokens, as the words directly behind the
openings. -/
def Token.definitions : List Token → List String
  | opening :: word :: rest =>
    if opening.kind = .openDefinition ∧ word.kind = .identifier then
      word.string :: definitions (word :: rest)
    else definitions (word :: rest)
  | _ => []

/-- The name of an inline partial that is open. -/
def OpenTag.defined : OpenTag → List String
  | .block name true => [name.name]
  | _ => []

/-- The name of an inline partial that a segment defines or opens. -/
def Segment.defined : Segment → List String
  | .definition name => [name]
  | .opening tag => tag.defined
  | _ => []

variable {input : Input} {readString : Token → Except Located Body} {tokens rest : List Token}

/-! ### Reading segments -/

/-- The names of inline partials are the words behind their openings. -/
theorem Token.definitions_eq (tokens : List Token) :
    definitions tokens = (wordsBehind .openDefinition tokens).map string := by
  fun_induction definitions tokens with
  | case1 opening word rest opens induction =>
    rw [wordsBehind, if_pos opens, List.map_cons, induction]
  | case2 opening word rest other induction => rw [wordsBehind, if_neg other, induction]
  | case3 tokens short =>
    cases tokens with
    | nil => rfl
    | cons first rest =>
      cases rest with
      | nil => rfl
      | cons next rest => exact absurd rfl (short first next rest)

/-- What opens no inline partial has no name behind it. -/
theorem Token.definitions_cons {first : Token} (other : first.kind ≠ .openDefinition) :
    definitions (first :: tokens) = definitions tokens := by
  rw [definitions_eq, definitions_eq, wordsBehind_cons other]

/-- Tokens that stay inside of a tag open no inline partial. -/
theorem Takes.definitions (takes : Takes TokenKind.staysInside tokens rest) :
    Token.definitions tokens = Token.definitions rest := by
  rw [Token.definitions_eq, Token.definitions_eq, takes.wordsBehind rfl]

namespace Segment

variable {first : Token} {segment : Segment} {stop : Nat}

/-- A section or helper defines no inline partial. -/
theorem readElement_defined {head : Head} {key : String}
    (read : readElement input readString first head key tokens = .ok (segment, rest)) :
    segment.defined = [] := by
  obtain ⟨params, last, -, complete | opened⟩ := readElement_cases read
  · rfl
  · rfl

/-- A segment that does not begin with the opening of an inline partial defines none. -/
theorem read_defined {whitespace : Whitespace} (other : first.kind ≠ .openDefinition)
    (found : read input readString whitespace first tokens = .ok (segment, rest)) :
    segment.defined = [] := by
  rcases read_cases found with ⟨kind, found⟩ | ⟨-, found⟩ | ⟨defines, opens, found⟩ | ⟨flat, -⟩
  · obtain ⟨⟨path, _⟩, -, found⟩ := bind_eq_ok found
    exact readElement_defined found
  · obtain ⟨⟨name, _⟩, -, found⟩ := bind_eq_ok found
    exact readElement_defined found
  · have isBlock : defines = false := Bool.eq_false_iff.mpr fun defines => other (opens defines)
    subst isBlock
    obtain ⟨name, last, -, -, block | opened⟩ := readBlock_cases found
    · rfl
    · rfl
  · cases segment with
    | opening tag => cases flat
    | definition name => cases flat
    | _ => rfl

/-- An inline partial that is read defines the word behind its opening. -/
theorem readBlock_definitions (opens : first.kind = .openDefinition)
    (found : readBlock input true tokens = .ok (segment, rest)) :
    Token.definitions (first :: tokens) = segment.defined ++ Token.definitions rest := by
  obtain ⟨name, last, rfl, word, read⟩ := readBlock_cases found
  have names : segment.defined = [name.string] := by
    cases read with
    | definition | opened => rfl
  have other : name.kind ≠ .openDefinition := by
    rw [word]
    nofun
  rw [Token.definitions, if_pos ⟨opens, word⟩, Token.definitions_cons other,
    read.staysInside.definitions, names, List.singleton_append]

/-- A segment that is read and stays inside of its tag defines what is opened among its tokens. -/
theorem read_definitions {whitespace : Whitespace}
    (found : read input readString whitespace first tokens = .ok (segment, rest))
    (takes : Takes TokenKind.staysInside tokens rest) :
    Token.definitions (first :: tokens) = segment.defined ++ Token.definitions rest := by
  by_cases opens : first.kind = .openDefinition
  · unfold read at found
    rw [opens] at found
    exact readBlock_definitions opens found
  · rw [Token.definitions_cons opens, takes.definitions, read_defined opens found,
      List.nil_append]

/-- What is so of no tokens, and of those of one segment that stays inside of its tag in front of
others, is so of all tokens of a stream without a fault, if the keys of its close tags hold no
opening braces. -/
theorem stream_induction {motive : List Token → List Segment → Prop} {whitespace : Whitespace}
    (nil : motive [] [])
    (cons : ∀ {first tokens segment later segments},
      read input readString whitespace first tokens = .ok (segment, later) →
        Takes TokenKind.staysInside tokens later → motive later segments →
          motive (first :: tokens) (segment :: segments))
    (laid : Token.Laid input.source stop tokens)
    (complete : (stream input readString whitespace tokens).failure = none)
    (plain : ∀ segment ∈ (stream input readString whitespace tokens).items,
      segment.ClosesPlainly) :
    motive tokens (stream input readString whitespace tokens).items := by
  fun_induction stream input readString whitespace tokens with
  | case1 => exact nil
  | case2 => cases complete
  | case3 first tokens segment later found induction =>
    obtain ⟨here, behind⟩ := List.forall_mem_cons.mp plain
    have takes : Takes TokenKind.staysInside tokens later := by
      by_cases closes : first.kind = .openClose
      · have closing := found
        unfold read at closing
        rw [closes] at closing
        exact readClosing_staysInside laid.tail closing here
      · exact read_staysInside closes found
    exact cons found takes (induction (laid.tail.suffix (read_suffix found)) complete behind)

/-- The segments of a stream without a fault define what is opened among its tokens, if the keys of
its close tags hold no opening braces. -/
theorem stream_definitions (whitespace : Whitespace) (laid : Token.Laid input.source stop tokens)
    (complete : (stream input readString whitespace tokens).failure = none)
    (plain : ∀ segment ∈ (stream input readString whitespace tokens).items,
      segment.ClosesPlainly) :
    Token.definitions tokens =
      (stream input readString whitespace tokens).items.flatMap defined := by
  refine stream_induction
    (motive := fun tokens segments => Token.definitions tokens = segments.flatMap defined)
    rfl (fun found takes behind => ?_) laid complete plain
  rw [read_definitions found takes, behind, List.flatMap_cons]

end Segment

/-! ### Putting segments together -/

/-- A key that is given a value is there beside those that were. -/
theorem Dict.has_insert {α : Type} (entries : Dict α) (key : String) (value : α) (name : String) :
    (entries.insert key value).has name = true ↔ name = key ∨ entries.has name = true := by
  unfold Dict.has
  by_cases same : name = key
  · subst same
    simp [get?_insert_self]
  · simp [get?_insert_of_ne entries value same, same]

namespace Assembly

variable {assembly next : Assembly} {segment : Segment}

/-- A part that is added opens and closes nothing. -/
theorem opened_add (assembly : Assembly) (part : Part) :
    (assembly.add part).opened = assembly.opened := by
  unfold add
  split <;> rfl

/-- A part that is added sets nothing aside. -/
theorem blocks_add (assembly : Assembly) (part : Part) :
    (assembly.add part).blocks = assembly.blocks := by
  unfold add
  split <;> rfl

/-- A named body begins in the innermost tag, which keeps its key. -/
theorem opened_beginBody {name : String} {span : Span}
    (begun : assembly.beginBody name span = .ok next) :
    next.blocks = assembly.blocks ∧
      ∃ tag changed outer, assembly.opened = tag :: outer ∧ next.opened = changed :: outer ∧
        changed.key = tag.key ∧ changed.defined = tag.defined := by
  cases beginBody_cases begun with
  | afterMain => exact ⟨rfl, _, _, _, rfl, rfl, rfl, rfl⟩
  | afterNamed => exact ⟨rfl, _, _, _, rfl, rfl, rfl, rfl⟩

/-- The innermost tag is closed with its own key, and set aside if it is an inline partial. -/
theorem opened_close {key : String} {span : Span} (closed : assembly.close key span = .ok next) :
    ∃ tag, assembly.opened = tag :: next.opened ∧ tag.key = key ∧
      ∀ name, next.blocks.has name = true ↔
        name ∈ tag.defined ∨ assembly.blocks.has name = true := by
  cases close_cases closed with
  | main =>
    rw [opened_add, blocks_add]
    exact ⟨_, rfl, rfl, by simp [OpenTag.defined]⟩
  | named =>
    rw [opened_add, blocks_add]
    exact ⟨_, rfl, rfl, by simp [OpenTag.defined]⟩
  | block same =>
    rw [opened_add, blocks_add]
    exact ⟨_, rfl, same, by simp [OpenTag.defined]⟩
  | definition same =>
    exact ⟨_, rfl, same, by simp [define, Dict.has_insert, OpenTag.defined]⟩

/-- An inline partial of a name has been set aside or is open. -/
def Knows (assembly : Assembly) (name : String) : Prop :=
  assembly.blocks.has name = true ∨ ∃ tag ∈ assembly.opened, name ∈ tag.defined

/-- A segment adds the names that it defines to those that are known. -/
theorem knows_step (stepped : assembly.step segment = .ok next) (name : String) :
    next.Knows name ↔ name ∈ segment.defined ∨ assembly.Knows name := by
  unfold Knows
  cases segment with
  | part part =>
    cases stepped
    simp [opened_add, blocks_add, Segment.defined]
  | definition defined =>
    cases stepped
    simp [define, Dict.has_insert, Segment.defined, or_assoc]
  | opening tag =>
    cases stepped
    simp [openTag, Segment.defined, or_left_comm]
  | body bodyName span =>
    obtain ⟨blocks, tag, changed, outer, before, after, -, defined⟩ := opened_beginBody stepped
    simp [blocks, before, after, defined, Segment.defined]
  | closing key span =>
    obtain ⟨tag, opened, -, blocks⟩ := opened_close stepped
    simp [blocks, opened, Segment.defined, or_assoc, or_left_comm]

/-- Segments add the names that they define to those that are known. -/
theorem knows_run {segments : List Segment} {final : Assembly}
    (ran : assembly.run segments = .ok final) (name : String) :
    final.Knows name ↔ name ∈ segments.flatMap Segment.defined ∨ assembly.Knows name := by
  induction segments generalizing assembly with
  | nil =>
    cases ran
    simp
  | cons segment rest induction =>
    obtain ⟨next, stepped, ran⟩ := run_cons_eq_ok ran
    rw [induction ran, knows_step stepped, List.flatMap_cons, List.mem_append]
    tauto

/-- The keys of the tags that are open hold no opening braces. -/
def IsPlain (assembly : Assembly) : Prop :=
  ∀ tag ∈ assembly.opened, '{' ∉ tag.key.toList

/-- A segment that opens a tag with a plain key leaves only plain keys open, and closes no other. -/
theorem IsPlain.step (plain : assembly.IsPlain) (opens : segment.OpensPlainly)
    (stepped : assembly.step segment = .ok next) : next.IsPlain ∧ segment.ClosesPlainly := by
  unfold IsPlain at plain ⊢
  cases segment with
  | part part =>
    cases stepped
    rw [opened_add]
    exact ⟨plain, nofun⟩
  | definition name =>
    cases stepped
    exact ⟨plain, nofun⟩
  | opening tag =>
    cases stepped
    exact ⟨List.forall_mem_cons.mpr ⟨opens tag rfl, plain⟩, nofun⟩
  | body name span =>
    obtain ⟨-, tag, changed, outer, before, after, key, -⟩ := opened_beginBody stepped
    rw [before] at plain
    rw [after]
    obtain ⟨here, around⟩ := List.forall_mem_cons.mp plain
    exact ⟨List.forall_mem_cons.mpr ⟨key ▸ here, around⟩, nofun⟩
  | closing key span =>
    obtain ⟨tag, opened, same, -⟩ := opened_close stepped
    rw [opened] at plain
    obtain ⟨here, around⟩ := List.forall_mem_cons.mp plain
    refine ⟨around, ?_⟩
    rintro _ _ ⟨⟩
    exact same ▸ here

/-- Segments that open tags with plain keys close no others. -/
theorem IsPlain.run {segments : List Segment} {final : Assembly} (plain : assembly.IsPlain)
    (opens : ∀ segment ∈ segments, segment.OpensPlainly)
    (ran : assembly.run segments = .ok final) : ∀ segment ∈ segments, segment.ClosesPlainly := by
  induction segments generalizing assembly with
  | nil => simp
  | cons segment rest induction =>
    obtain ⟨here, behind⟩ := List.forall_mem_cons.mp opens
    obtain ⟨next, stepped, ran⟩ := run_cons_eq_ok ran
    obtain ⟨plain, closes⟩ := plain.step here stepped
    exact List.forall_mem_cons.mpr ⟨closes, induction plain behind ran⟩

end Assembly

/-! ### Compiling -/

/-- When a template is complete no tag is open, and what is known has been set aside. -/
theorem Assembly.finish_cases {assembly : Assembly} {body : Body} {blocks : Dict Body}
    (finished : assembly.finish = .ok (body, blocks)) :
    assembly.opened = [] ∧ blocks = assembly.blocks := by
  unfold finish at finished
  split at finished
  · cases finished
  · rename_i none
    cases finished
    exact ⟨List.getLast?_eq_none_iff.mp none, rfl⟩

/-- A text that is read is put together from segments without a fault, and the keys of its close
tags hold no opening braces. -/
theorem Body.ofText_segments {source : List Char} {whitespace : Whitespace} {body : Body}
    {blocks : Dict Body} {text before after : List Char} (same : source = before ++ text ++ after)
    (read : Body.ofText readString whitespace source (Text.byteSize before) text =
      .ok (body, blocks)) :
    let tokens := Token.meaningful .text (Text.byteSize before) text
    let segments := Segment.stream ⟨source, tokens.failure⟩ readString whitespace tokens.items
    segments.failure = none ∧ (∀ segment ∈ segments.items, segment.ClosesPlainly) ∧
      ∃ assembly, Assembly.start.run segments.items = .ok assembly ∧
        assembly.finish = .ok (body, blocks) := by
  intro tokens segments
  have laid := Token.meaningful_laid same
  have plain : ∀ token ∈ tokens.items, token.IsPlain := fun token mem =>
    Token.stream_isPlain .text _ text token (List.mem_of_mem_filter mem)
  obtain ⟨assembly, ran, read⟩ := bind_eq_ok read
  split at read
  · cases read
  · rename_i complete
    have starts : Assembly.start.IsPlain := by simp [Assembly.IsPlain, Assembly.start]
    have closes := starts.run (Segment.stream_opensPlainly whitespace laid plain) ran
    exact ⟨complete, closes, assembly, ran, read⟩

/-- The inline partials of a text are those that are opened among its tokens. -/
theorem Body.ofText_definitions {source : List Char} {whitespace : Whitespace} {body : Body}
    {blocks : Dict Body} {text before after : List Char} (same : source = before ++ text ++ after)
    (read : Body.ofText readString whitespace source (Text.byteSize before) text =
      .ok (body, blocks)) (name : String) :
    blocks.has name = true ↔
      name ∈ Token.definitions (Token.meaningful .text (Text.byteSize before) text).items := by
  have laid := Token.meaningful_laid same
  obtain ⟨complete, closes, assembly, ran, read⟩ := Body.ofText_segments same read
  obtain ⟨closed, rfl⟩ := Assembly.finish_cases read
  have names : Token.definitions (Token.meaningful .text (Text.byteSize before) text).items = _ :=
    Segment.stream_definitions whitespace laid complete closes
  have nothing : ¬ Assembly.start.Knows name := by
    simp [Assembly.Knows, Assembly.start, Dict.has, Dict.get?]
  have isKnown : assembly.Knows name ↔ assembly.blocks.has name = true := by
    simp [Assembly.Knows, closed]
  rw [names, ← isKnown, Assembly.knows_run ran name]
  exact or_iff_left nothing

/-- Faults that are reported as errors make no difference where there is none. -/
theorem Template.compile_of_compileSource {whitespace : Whitespace} {source : String}
    {template : Template} (compiled : compileSource whitespace source = .ok template) :
    Template.compile whitespace source = .ok template := by
  unfold compileSource at compiled
  cases found : Template.compile whitespace source with
  | error located =>
    rw [found] at compiled
    cases compiled
  | ok other =>
    rw [found] at compiled
    exact congrArg Except.ok (Except.ok.inj compiled)

/-- The names that are opened as inline partials anywhere in a source: outside of strings, or in a
string that is read as a template. -/
def DefinedIn (source : List Char) (name : String) : Prop :=
  ∃ span text, IsRead source span text ∧
    name ∈ Token.definitions (Token.meaningful .text span.start text).items

/-- The inline partials of a template are exactly those that are opened outside of strings, however
deep the tags are nested. So they are all that are opened anywhere in the source exactly if every
name that is defined in a string is also defined outside of strings. -/
theorem compileSource_collects {whitespace : Whitespace} {source : String} {template : Template}
    (compiled : compileSource whitespace source = .ok template) :
    let outside := Token.definitions (Token.meaningful .text 0 source.toList).items
    (∀ name, template.blocks.has name = true ↔ name ∈ outside) ∧
      ((∀ name, template.blocks.has name = true ↔ DefinedIn source.toList name) ↔
        ∀ name, DefinedIn source.toList name → name ∈ outside) := by
  intro outside
  have collected (name : String) : template.blocks.has name = true ↔ name ∈ outside := by
    obtain ⟨⟨body, blocks⟩, read, complete⟩ :=
      bind_eq_ok (Template.compile_of_compileSource compiled)
    cases complete
    have whole : source.toList = [] ++ source.toList ++ [] := by simp
    exact Body.ofText_definitions whole read name
  refine ⟨collected, fun all name => ?_, fun inside name => ?_⟩
  · rw [← all, collected]
    exact id
  · rw [collected]
    exact ⟨fun mem => ⟨_, _, .whole, mem⟩, inside name⟩

/-- An inline partial in a section in another one, which is defined once more in a string. -/
theorem compileSource_collects_nested :
    let source := "\x7b<a\x7d\x7b#s\x7d\x7b<b/\x7d\x7b/s\x7d\x7b/a\x7d\x7b@h k=\"\x7b<a/\x7d\"/\x7d"
    ∃ template, compileSource .compress source = .ok template ∧
      ∀ name, template.blocks.has name = true ↔ name ∈ ["a", "b"] := by
  intro source
  have compiles : (compileSource .compress source).toOption.isSome = true := by decide +kernel
  obtain ⟨template, found⟩ := Option.isSome_iff_exists.mp compiles
  have compiled := Except.eq_ok_of_toOption found
  have outside : Token.definitions (Token.meaningful .text 0 source.toList).items = ["a", "b"] := by
    decide +kernel
  have collected := (compileSource_collects compiled).1
  rw [outside] at collected
  exact ⟨template, compiled, collected⟩

/-- An inline partial that is opened in the value of a parameter, and nowhere else, is none of the
template. -/
theorem compileSource_drops_quoted :
    let source := "\x7b@h k=\"\x7b<x/\x7d\"/\x7d"
    ∃ template, compileSource .preserve source = .ok template ∧ template.blocks = [] ∧
      DefinedIn source.toList "x" := by
  intro source
  have nothing : (compileSource .preserve source).toOption.map (·.blocks.isEmpty) = some true := by
    decide +kernel
  obtain ⟨template, found, empty⟩ := Option.map_eq_some_iff.mp nothing
  let string : Token := ⟨.string, "\"\x7b<x/\x7d\"".toList, 6⟩
  have mem : string ∈ (Token.meaningful .text 0 source.toList).items := by decide +kernel
  have read : IsRead source.toList ⟨7, 12⟩ "\x7b<x/\x7d".toList :=
    .string .whole mem rfl (by decide) rfl
  exact ⟨template, Except.eq_ok_of_toOption found, List.isEmpty_iff.mp empty, _, _, read,
    by decide +kernel⟩

end Dust
