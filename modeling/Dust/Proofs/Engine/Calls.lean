import Dust.Proofs.Engine.HelpersUsed
import Dust.Proofs.Syntax.Collecting
import Dust.Proofs.Syntax.Stacks

/-!
# Calls of helpers

A call stands in a source as a word behind the opening of a helper, and in a tree as the name of a
part. A walk through a tree meets the calls of a part before those in its bodies. While segments are
put together every call that is read comes to one place in the tree at most, since bodies move as a
whole, so that a template makes no call twice and none that is not in its source.
-/

namespace Dust

/-! ### Calls in a tree -/

/-- What a section or helper calls itself. -/
def Head.called : Head → List Identifier
  | .helper name => [name]
  | .test .. => []

/-- What a part calls itself. -/
def Part.call? : Part → Option Identifier
  | .element (.helper name) .. => some name
  | _ => none

/-- All calls in a body, as a walk through it meets them. -/
def Body.calls (body : Body) : List Identifier :=
  (Part.nestedInBody body).filterMap Part.call?

/-- All calls in named bodies, in the order of their names. -/
def Body.callsInAll (bodies : Dict Body) : List Identifier :=
  bodies.flatMap fun entry => calls entry.2

namespace Body

/-- An empty body calls nothing. -/
theorem calls_nil : calls [] = [] :=
  rfl

/-- The calls of a body are those of its parts. -/
theorem calls_append (front back : Body) : calls (front ++ back) = calls front ++ calls back := by
  simp [calls, Part.nestedInBody_eq]

/-- The calls in a part that is pushed come behind the others. -/
theorem calls_push (body : Body) (part : Part) :
    calls (body.push part) = calls body ++ calls [part] := by
  rcases push_cases body part with ⟨rfl, same⟩ | ⟨front, before, content, rfl, rfl, same⟩ |
    ⟨same, -⟩
  · rw [same]
    exact (List.append_nil _).symm
  · rw [same, calls_append, calls_append, List.append_assoc]
    rfl
  · rw [same, calls_append]

/-- The calls in named bodies are those of one body after the other. -/
theorem calls_nestedInBodies (bodies : Dict Body) :
    (Part.nestedInBodies bodies).filterMap Part.call? = callsInAll bodies := by
  rw [Part.nestedInBodies_eq, List.filterMap_flatMap]
  rfl

/-- A section or helper calls first, then its main body does, and then its named bodies do in the
order of their names. -/
theorem calls_element (head : Head) (params : List Param) (main : Option Body) (bodies : Dict Body)
    (span : Span) : calls [.element head params main bodies span] =
      head.called ++ (calls (main.getD []) ++ callsInAll bodies) := by
  have mainCalls : (Part.nestedInMain main).filterMap Part.call? = calls (main.getD []) := by
    cases main <;> rfl
  cases head <;>
    simp [calls, Part.nestedInBody, Part.withNested, Part.call?, Head.called, List.filterMap_cons,
      calls_nestedInBodies, mainCalls]

/-- The calls in a block are those in what it holds otherwise. -/
theorem calls_block (name : Identifier) (main : Body) :
    calls [.block name (some main)] = calls main := by
  simp [calls, Part.nestedInBody, Part.withNested, Part.nestedInMain, Part.call?,
    List.filterMap_cons]

end Body

/-- What a tag calls that is opened. -/
def OpenTag.called : OpenTag → List Identifier
  | .element head .. => head.called
  | .block .. => []

/-- All calls of a tag that is open, and of its bodies that are complete. -/
def OpenTag.calls : OpenTag → List Identifier
  | .element head _ _ _ main bodies _ =>
    head.called ++ (Body.calls (main.getD []) ++ Body.callsInAll bodies)
  | .block .. => []

/-- A tag that has no bodies yet has made no calls but its own. -/
theorem OpenTag.IsFresh.calls_eq {tag : OpenTag} (fresh : tag.IsFresh) :
    tag.calls = tag.called := by
  cases tag with
  | element head params key span main bodies current =>
    obtain ⟨rfl, rfl, rfl⟩ := fresh
    exact List.append_nil _
  | block name defines => rfl

/-- What a segment calls. -/
def Segment.called : Segment → List Identifier
  | .part whole => Body.calls [whole]
  | .opening tag => tag.called
  | _ => []

/-- All calls in a template, as a walk through it meets them. -/
def Template.calls (template : Template) : List Identifier :=
  template.allParts.filterMap Part.call?

/-- The calls in the body of a template come before those in its inline partials. -/
theorem Template.calls_eq (template : Template) :
    template.calls = Body.calls template.body ++ Body.callsInAll template.blocks := by
  rw [calls, allParts, List.filterMap_append, Body.calls_nestedInBodies]
  rfl

/-! ### Calls in a source -/

/-- The calls among tokens, as the words directly behind the openings of helpers. -/
def Token.calls (tokens : List Token) : List Identifier :=
  (wordsBehind .openHelper tokens).map identifier

/-- The calls in a source outside of strings. -/
def callsIn (source : List Char) : List Identifier :=
  Token.calls (Token.meaningful .text 0 source).items

/-- A name is written before another one. -/
def Identifier.Before (name later : Identifier) : Prop :=
  name.span.start < later.span.start

instance (name later : Identifier) : Decidable (name.Before later) :=
  inferInstanceAs (Decidable (_ < _))

/-- No token is empty. -/
theorem Token.stream_start_lt_stop (mode : TokenMode) (start : Nat) (text : List Char) :
    ∀ token ∈ (Token.stream mode start text).items, token.start < token.stop := by
  fun_induction Token.stream mode start text with
  | case1 => simp
  | case2 => simp
  | case3 mode start first rest kind more scan token =>
    rename_i induction
    exact List.forall_mem_cons.mpr ⟨Text.lt_add_byteSize_cons start first _, induction⟩

/-- Calls are found in the order in which they are written. -/
theorem callsIn_ordered (source : List Char) : (callsIn source).Pairwise Identifier.Before := by
  let tokens := (Token.meaningful .text 0 source).items
  have whole : source = [] ++ source ++ [] := by simp
  have placed : Token.Placed source tokens := (Token.meaningful_laid whole).placed
  have solid : ∀ token ∈ tokens, token.start < token.stop := fun token mem =>
    Token.stream_start_lt_stop .text 0 source token (List.mem_of_mem_filter mem)
  have ordered : tokens.Pairwise fun token later => token.start < later.start :=
    placed.ordered.imp_of_mem fun mem _ le => Nat.lt_of_lt_of_le (solid _ mem) le
  have words : (Token.wordsBehind .openHelper tokens).Sublist tokens :=
    (Token.wordsBehind_sublist _ tokens).trans (List.tail_sublist tokens)
  exact List.pairwise_map.mpr (ordered.sublist words)

/-- No two calls are at one place. -/
theorem callsIn_places_nodup (source : List Char) :
    ((callsIn source).map fun call => call.span.start).Nodup :=
  List.pairwise_map.mpr ((callsIn_ordered source).imp Nat.ne_of_lt)

namespace Segment

variable {input : Input} {readString : Token → Except Located Body} {whitespace : Whitespace}
  {first : Token} {tokens rest : List Token} {segment : Segment} {stop : Nat}

/-- A section or helper calls what its head does. -/
theorem readElement_called {head : Head} {key : String}
    (read : readElement input readString first head key tokens = .ok (segment, rest)) :
    segment.called = head.called := by
  obtain ⟨params, last, -, complete | opened⟩ := readElement_cases read
  · cases head <;> rfl
  · rfl

/-- A segment that does not begin with the opening of a helper calls nothing. -/
theorem read_called (other : first.kind ≠ .openHelper)
    (found : read input readString whitespace first tokens = .ok (segment, rest)) :
    segment.called = [] := by
  rcases read_cases found with ⟨kind, found⟩ | ⟨opens, -⟩ | ⟨defines, -, found⟩ | ⟨flat, leaf, -⟩
  · obtain ⟨⟨path, _⟩, -, found⟩ := bind_eq_ok found
    exact readElement_called found
  · exact absurd opens other
  · obtain ⟨name, last, -, -, definition | block | opened⟩ := readBlock_cases found
    · rfl
    · rfl
    · rfl
  · cases segment with
    | opening tag => cases flat
    | part whole => cases whole <;> first | rfl | cases leaf
    | _ => rfl

/-- A helper that is read calls the word behind its opening. -/
theorem readHelper_calls (opens : first.kind = .openHelper)
    (found : readHelper input readString first tokens = .ok (segment, rest)) :
    Token.calls (first :: tokens) = segment.called ++ Token.calls rest := by
  obtain ⟨⟨name, left⟩, nameRead, read⟩ := bind_eq_ok found
  obtain ⟨rfl, word⟩ := Input.take_eq_ok nameRead
  have other : name.kind ≠ .openHelper := by
    rw [word]
    nofun
  rw [Token.calls, Token.wordsBehind, if_pos ⟨opens, word⟩, Token.wordsBehind_cons other,
    (readElement_staysInside read).wordsBehind rfl, readElement_called read]
  rfl

/-- A segment that is read and stays inside of its tag calls what is called among its tokens. -/
theorem read_calls (found : read input readString whitespace first tokens = .ok (segment, rest))
    (takes : Takes TokenKind.staysInside tokens rest) :
    Token.calls (first :: tokens) = segment.called ++ Token.calls rest := by
  by_cases opens : first.kind = .openHelper
  · unfold read at found
    rw [opens] at found
    exact readHelper_calls opens found
  · rw [read_called opens found, Token.calls, Token.wordsBehind_cons opens, takes.wordsBehind rfl]
    rfl

/-- The segments of a stream without a fault call what is called among its tokens, if the keys of
its close tags hold no opening braces. -/
theorem stream_calls (whitespace : Whitespace) (laid : Token.Laid input.source stop tokens)
    (complete : (stream input readString whitespace tokens).failure = none)
    (plain : ∀ segment ∈ (stream input readString whitespace tokens).items,
      segment.ClosesPlainly) :
    Token.calls tokens = (stream input readString whitespace tokens).items.flatMap called := by
  refine stream_induction
    (motive := fun tokens segments => Token.calls tokens = segments.flatMap called)
    rfl (fun found takes behind => ?_) laid complete plain
  rw [read_calls found takes, behind, List.flatMap_cons]

end Segment

/-- A template that is compiled is put together from segments that call what is called in its
source. -/
theorem Template.compile_segments {whitespace : Whitespace} {source : String}
    {template : Template} (compiled : Template.compile whitespace source = .ok template) :
    ∃ segments assembly, callsIn source.toList = segments.flatMap Segment.called ∧
      (∀ segment ∈ segments, segment.OpensFresh) ∧ Assembly.start.run segments = .ok assembly ∧
      assembly.finish = .ok (template.body, template.blocks) := by
  have whole : source.toList = [] ++ source.toList ++ [] := by simp
  obtain ⟨⟨body, blocks⟩, read, complete⟩ := bind_eq_ok compiled
  cases complete
  have laid := Token.meaningful_laid whole
  obtain ⟨complete, closes, assembly, ran, read⟩ := Body.ofText_segments whole read
  exact ⟨_, assembly, Segment.stream_calls whitespace laid complete closes,
    Segment.stream_opensFresh _ _ whitespace _, ran, read⟩

/-! ### No call is made twice -/

/-- Giving a key a value adds no more than what is in the value. -/
theorem Body.count_callsInAll_insert (bodies : Dict Body) (name : String) (body : Body)
    (call : Identifier) : (callsInAll (bodies.insert name body)).count call ≤
      (calls body).count call + (callsInAll bodies).count call := by
  induction bodies with
  | nil => simp [callsInAll, Dict.insert]
  | cons entry rest induction =>
    obtain ⟨key, old⟩ := entry
    unfold Dict.insert
    simp only [callsInAll, List.flatMap_cons, List.count_append] at induction ⊢
    split
    · simp
    · split
      · simp
      · simp only [List.flatMap_cons, List.count_append]
        omega

namespace Assembly

/-- All calls in a template that is put together. -/
def calls (assembly : Assembly) : List Identifier :=
  assembly.scopes.flatMap Body.calls ++
    (assembly.opened.flatMap OpenTag.calls ++ Body.callsInAll assembly.blocks)

variable {assembly next : Assembly} {segment : Segment}

/-- The calls of the innermost tag and body come beside those around them. -/
theorem count_calls_cons (outer : Assembly) (tag : OpenTag) (body : Body) (call : Identifier) :
    (calls ⟨tag :: outer.opened, body :: outer.scopes, outer.blocks⟩).count call =
      (Body.calls body).count call + tag.calls.count call + outer.calls.count call := by
  simp only [calls, List.flatMap_cons, List.count_append]
  omega

/-- A part brings its calls. -/
theorem count_calls_add (assembly : Assembly) (part : Part) (call : Identifier) :
    (assembly.add part).calls.count call ≤
      (Body.calls [part]).count call + assembly.calls.count call := by
  obtain ⟨opened, scopes, blocks⟩ := assembly
  cases scopes with
  | nil => exact Nat.le_add_left _ _
  | cons body scopes =>
    simp only [add, calls, List.flatMap_cons, Body.calls_push, List.count_append]
    omega

/-- An inline partial that is set aside brings its calls. -/
theorem count_calls_define (assembly : Assembly) (name : String) (body : Body) (call : Identifier) :
    (assembly.define name body).calls.count call ≤
      (Body.calls body).count call + assembly.calls.count call := by
  have inserted := Body.count_callsInAll_insert assembly.blocks name body call
  simp only [define, calls, List.count_append] at inserted ⊢
  omega

/-- A named body brings no calls, and moves those of the body before. -/
theorem count_calls_beginBody {name : String} {span : Span}
    (begun : assembly.beginBody name span = .ok next) (call : Identifier) :
    next.calls.count call ≤ assembly.calls.count call := by
  -- the body before is the main one, or takes the place of one of its name, which is dropped
  cases beginBody_cases begun with
  | afterMain =>
    simp only [count_calls_cons, Body.calls_nil, List.count_nil, OpenTag.calls, List.count_append,
      Option.getD_some]
    omega
  | @afterNamed _ _ _ _ _ _ bodies body current =>
    have inserted := Body.count_callsInAll_insert bodies current body call
    simp only [count_calls_cons, Body.calls_nil, List.count_nil, OpenTag.calls, List.count_append]
    omega

/-- Closing a tag brings no calls, and moves those of the tag and of its body. -/
theorem count_calls_close {key : String} {span : Span}
    (closed : assembly.close key span = .ok next) (call : Identifier) :
    next.calls.count call ≤ assembly.calls.count call := by
  cases close_cases closed with
  | main =>
    refine (count_calls_add _ _ call).trans ?_
    rw [count_calls_cons, Body.calls_element]
    simp only [OpenTag.calls, List.count_append, Option.getD_some]
    omega
  | @named _ _ _ _ _ bodies body current =>
    have inserted := Body.count_callsInAll_insert bodies current body call
    refine (count_calls_add _ _ call).trans ?_
    rw [count_calls_cons, Body.calls_element]
    simp only [OpenTag.calls, List.count_append, Option.getD_some]
    omega
  | block =>
    refine (count_calls_add _ _ call).trans ?_
    rw [count_calls_cons, Body.calls_block]
    omega
  | definition =>
    refine (count_calls_define _ _ _ call).trans ?_
    rw [count_calls_cons]
    omega

/-- A segment brings no calls but those that it makes. -/
theorem count_calls_step (fresh : segment.OpensFresh) (stepped : assembly.step segment = .ok next)
    (call : Identifier) :
    next.calls.count call ≤ segment.called.count call + assembly.calls.count call := by
  cases segment with
  | part part =>
    cases stepped
    exact count_calls_add assembly part call
  | definition name =>
    cases stepped
    exact count_calls_define assembly name [] call
  | opening tag =>
    cases stepped
    have own : tag.calls = tag.called := (fresh tag rfl).calls_eq
    rw [openTag, count_calls_cons, own, Body.calls_nil, List.count_nil, Nat.zero_add]
    exact Nat.le_refl _
  | body name span =>
    exact (count_calls_beginBody stepped call).trans (Nat.le_add_left _ _)
  | closing key span =>
    exact (count_calls_close stepped call).trans (Nat.le_add_left _ _)

/-- Segments bring no calls but those that they make. -/
theorem count_calls_run {segments : List Segment} (fresh : ∀ segment ∈ segments, segment.OpensFresh)
    (ran : assembly.run segments = .ok next) (call : Identifier) :
    next.calls.count call ≤
      (segments.flatMap Segment.called).count call + assembly.calls.count call := by
  induction segments generalizing assembly with
  | nil =>
    cases ran
    exact Nat.le_add_left _ _
  | cons segment rest induction =>
    obtain ⟨middle, stepped, ran⟩ := run_cons_eq_ok ran
    obtain ⟨here, behind⟩ := List.forall_mem_cons.mp fresh
    have brought := count_calls_step here stepped call
    have others := induction behind ran
    rw [List.flatMap_cons, List.count_append]
    omega

/-- A template that is complete has no other calls. -/
theorem count_calls_finish {body : Body} {blocks : Dict Body}
    (finished : assembly.finish = .ok (body, blocks)) (call : Identifier) :
    (Body.calls body ++ Body.callsInAll blocks).count call ≤ assembly.calls.count call := by
  obtain ⟨opened, scopes, inline⟩ := assembly
  obtain ⟨rfl, rfl⟩ := finish_cases finished
  cases finished
  cases scopes with
  | nil => exact Nat.le_refl _
  | cons body scopes =>
    simp only [calls, List.flatMap_cons, List.count_append, List.headD_cons]
    omega

end Assembly

/-- A template makes no call more often than it is made in its source. -/
theorem Template.compile_count_calls {whitespace : Whitespace} {source : String}
    {template : Template} (compiled : Template.compile whitespace source = .ok template)
    (call : Identifier) : template.calls.count call ≤ (callsIn source.toList).count call := by
  obtain ⟨segments, assembly, calls, fresh, ran, finished⟩ := Template.compile_segments compiled
  calc template.calls.count call ≤ assembly.calls.count call := by
        rw [Template.calls_eq]
        exact Assembly.count_calls_finish finished call
    _ ≤ (callsIn source.toList).count call := by
        rw [calls]
        exact Assembly.count_calls_run fresh ran call

/-- All calls of a template are made in its source outside of strings. -/
theorem Template.calls_subset {whitespace : Whitespace} {source : String}
    {template : Template} (compiled : Template.compile whitespace source = .ok template) :
    template.calls ⊆ callsIn source.toList := by
  intro call mem
  have made := Template.compile_count_calls compiled call
  exact List.count_pos_iff.mp (Nat.lt_of_lt_of_le (List.count_pos_iff.mpr mem) made)

/-- A template makes no call twice. -/
theorem Template.calls_nodup {whitespace : Whitespace} {source : String}
    {template : Template} (compiled : Template.compile whitespace source = .ok template) :
    template.calls.Nodup := by
  have once := List.nodup_iff_count_le_one.mp (callsIn_places_nodup source.toList).of_map
  exact List.nodup_iff_count_le_one.mpr fun call =>
    (Template.compile_count_calls compiled call).trans (once call)

end Dust
