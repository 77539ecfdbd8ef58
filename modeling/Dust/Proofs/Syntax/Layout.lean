import Dust.Proofs.Syntax.Faithful
import Dust.Proofs.Syntax.Yields
import Dust.Store.Load

/-!
# Layout

Compression changes the layout of a template and nothing else. A tree without its layout has no
blank space in the texts outside of strings, and this tree can be made from the segments of a source
as well: putting segments together commutes with leaving the layout out, so that two readers whose
texts differ in their layout make the same of a source, or fail in the same way.
-/

namespace Dust

/-! ### Trees without layout -/

/-- Whether a character may be part of the layout. -/
def isLayout (c : Char) : Bool :=
  c = '\n' || c = '\r' || c = ' ' || c = '\t'

/-- A text without its layout. -/
def withoutLayout (text : List Char) : List Char :=
  text.filter fun c => !isLayout c

mutual

/-- A part without the layout of its texts. Strings stay as they are. -/
def Part.withoutLayout : Part → Part
  | .text content => .text (String.ofList (Dust.withoutLayout content.toList))
  | .element head params main bodies span =>
    .element head params (Part.mainWithoutLayout main) (Part.bodiesWithoutLayout bodies) span
  | .block name main => .block name (Part.mainWithoutLayout main)
  | part => part

/-- A main body without layout, if there is one. -/
def Part.mainWithoutLayout : Option (List Part) → Option (List Part)
  | none => none
  | some body => some (Part.pushWithoutLayout [] body)

/-- Named bodies without layout. -/
def Part.bodiesWithoutLayout : List (String × List Part) → List (String × List Part)
  | [] => []
  | (name, body) :: rest => (name, Part.pushWithoutLayout [] body) :: Part.bodiesWithoutLayout rest

/-- A body with more parts at its end, in which there is no layout. Texts that are left empty are
dropped, and texts in a row are joined. -/
def Part.pushWithoutLayout (done : List Part) : List Part → List Part
  | [] => done
  | part :: rest => Part.pushWithoutLayout (Body.push done part.withoutLayout) rest

end

/-- A body without layout. -/
def Body.withoutLayout (body : Body) : Body :=
  Part.pushWithoutLayout [] body

/-- A template whose body and inline partials are without layout. -/
def Template.withoutLayout (template : Template) : Template :=
  { template with
    body := template.body.withoutLayout
    blocks := Part.bodiesWithoutLayout template.blocks }

/-! ### Texts -/

/-- Nothing is left of a character of the layout. -/
theorem withoutLayout_cons_of_layout {c : Char} (layout : isLayout c = true) (text : List Char) :
    withoutLayout (c :: text) = withoutLayout text := by
  simp [withoutLayout, layout]

/-- Texts in a row lose their layout one by one. -/
theorem withoutLayout_append (front back : List Char) :
    withoutLayout (front ++ back) = withoutLayout front ++ withoutLayout back :=
  List.filter_append ..

/-- Compression drops nothing but layout. -/
theorem withoutLayout_compressFrom (indented : Bool) (text : List Char) :
    withoutLayout (compressFrom indented text) = withoutLayout text := by
  fun_induction compressFrom indented text with
  | case1 => rfl
  | case2 indented c rest indentation induction =>
    have layout : isLayout c = true := by
      have either := indentation.2
      simp only [isIndentation, Bool.or_eq_true, decide_eq_true_eq] at either
      rcases either with rfl | rfl <;> rfl
    rw [induction, withoutLayout_cons_of_layout layout]
  | case3 indented rest _ induction =>
    rw [induction, withoutLayout_cons_of_layout rfl]
  | case4 indented c rest _ _ lineEnd induction =>
    obtain ⟨rfl, -⟩ := lineEnd
    rw [induction, withoutLayout_cons_of_layout rfl]
  | case5 indented c rest _ _ _ induction =>
    unfold withoutLayout at induction ⊢
    rw [List.filter_cons, List.filter_cons, induction]

/-- Raw text is kept with all that is not layout. -/
theorem Whitespace.withoutLayout_apply (whitespace : Whitespace) (text : List Char) :
    withoutLayout (whitespace.apply text) = withoutLayout text := by
  cases whitespace with
  | preserve => rfl
  | compress => exact withoutLayout_compressFrom false text

/-! ### Bodies -/

namespace Body

/-- Two texts that are pushed in a row are one text. -/
theorem push_push_text (body : Body) (first second : String) :
    Body.push (body.push (.text first)) (.text second) = body.push (.text (first ++ second)) := by
  by_cases firstEmpty : first = ""
  · subst firstEmpty
    simp [push]
  by_cases secondEmpty : second = ""
  · subst secondEmpty
    simp [push]
  rcases push_cases body (.text first) with ⟨same, -⟩ |
    ⟨front, before, content, rfl, same, pushed⟩ | ⟨pushed, apart⟩
  · exact absurd (Part.text.inj same) firstEmpty
  · cases same
    rw [pushed]
    simp [push, firstEmpty, secondEmpty, String.append_assoc]
  · have noText := (apart first rfl).2
    rcases push_cases body (.text (first ++ second)) with ⟨same, -⟩ |
      ⟨front, before, -, rfl, -, -⟩ | ⟨joined, -⟩
    · simp [firstEmpty] at same
    · cases noText (.text before) (by simp)
    · rw [pushed, joined]
      simp [push, secondEmpty]

/-- Parts are pushed one after the other. -/
theorem pushWithoutLayout_append (done front back : Body) :
    Part.pushWithoutLayout done (front ++ back) =
      Part.pushWithoutLayout (Part.pushWithoutLayout done front) back := by
  induction front generalizing done with
  | nil => rfl
  | cons part rest induction =>
    simp only [List.cons_append, Part.pushWithoutLayout, induction]

/-- The layout of a body with one more part is left out of the body and of the part. -/
theorem withoutLayout_push (body : Body) (part : Part) :
    withoutLayout (body.push part) = Body.push body.withoutLayout part.withoutLayout := by
  unfold withoutLayout
  rcases push_cases body part with ⟨rfl, pushed⟩ | ⟨front, before, content, rfl, rfl, pushed⟩ |
    ⟨pushed, -⟩
  · rw [pushed]
    rfl
  · rw [pushed, pushWithoutLayout_append, pushWithoutLayout_append]
    simp only [Part.pushWithoutLayout, Part.withoutLayout, push_push_text, String.toList_append,
      withoutLayout_append, String.ofList_append]
  · rw [pushed, pushWithoutLayout_append]
    rfl

end Body

/-- The layout of named bodies with one more is left out of all of them. -/
theorem Part.bodiesWithoutLayout_insert (bodies : Dict Body) (name : String) (body : Body) :
    Part.bodiesWithoutLayout (bodies.insert name body) =
      Dict.insert (Part.bodiesWithoutLayout bodies) name body.withoutLayout := by
  induction bodies with
  | nil => rfl
  | cons entry rest induction =>
    obtain ⟨other, old⟩ := entry
    unfold Dict.insert
    simp only [Part.bodiesWithoutLayout]
    split
    · rfl
    · split
      · rfl
      · rw [← induction, Part.bodiesWithoutLayout]

/-! ### Putting segments together -/

/-- An open tag whose bodies are without layout. -/
def OpenTag.withoutLayout : OpenTag → OpenTag
  | .element head params key span main bodies current =>
    .element head params key span (main.map Body.withoutLayout) (Part.bodiesWithoutLayout bodies)
      current
  | .block name defines => .block name defines

/-- A segment whose part is without layout. -/
def Segment.withoutLayout : Segment → Segment
  | .part piece => .part piece.withoutLayout
  | .opening tag => .opening tag.withoutLayout
  | segment => segment

namespace Assembly

/-- A template that is being put together without layout. -/
def withoutLayout (assembly : Assembly) : Assembly where
  opened := assembly.opened.map OpenTag.withoutLayout
  scopes := assembly.scopes.map Body.withoutLayout
  blocks := Part.bodiesWithoutLayout assembly.blocks

/-- A part that is added without layout. -/
theorem withoutLayout_add (assembly : Assembly) (part : Part) :
    (assembly.add part).withoutLayout = assembly.withoutLayout.add part.withoutLayout := by
  obtain ⟨opened, scopes, blocks⟩ := assembly
  cases scopes with
  | nil => rfl
  | cons scope outer => simp [add, withoutLayout, Body.withoutLayout_push]

/-- An inline partial that is set aside without layout. -/
theorem withoutLayout_define (assembly : Assembly) (name : String) (body : Body) :
    (assembly.define name body).withoutLayout =
      assembly.withoutLayout.define name body.withoutLayout := by
  simp [define, withoutLayout, Part.bodiesWithoutLayout_insert]

/-- A named body begins in a template without layout as in the template itself. -/
theorem withoutLayout_beginBody (assembly : Assembly) (name : String) (span : Span) :
    (assembly.beginBody name span).map withoutLayout =
      assembly.withoutLayout.beginBody name span := by
  obtain ⟨opened, scopes, blocks⟩ := assembly
  rcases opened with _ | ⟨tag, opened⟩
  · rfl
  rcases scopes with _ | ⟨scope, outer⟩
  · cases tag <;> rfl
  cases tag with
  | block => rfl
  | element head params key tagSpan main bodies current =>
    cases current with
    | none => rfl
    | some current =>
      simp only [withoutLayout, beginBody, List.map_cons, OpenTag.withoutLayout]
      rw [← Part.bodiesWithoutLayout_insert]
      rfl

/-- A tag is closed in a template without layout as in the template itself. -/
theorem withoutLayout_close (assembly : Assembly) (key : String) (span : Span) :
    (assembly.close key span).map withoutLayout = assembly.withoutLayout.close key span := by
  obtain ⟨opened, scopes, blocks⟩ := assembly
  rcases opened with _ | ⟨tag, opened⟩
  · rfl
  rcases scopes with _ | ⟨scope, outer⟩
  · cases tag <;> rfl
  cases tag with
  | block name defines =>
    simp only [withoutLayout, close, List.map_cons, OpenTag.withoutLayout]
    split
    · rfl
    cases defines
    · exact congrArg Except.ok (withoutLayout_add _ _)
    · exact congrArg Except.ok (withoutLayout_define _ _ _)
  | element head params tagKey tagSpan main bodies current =>
    simp only [withoutLayout, close, List.map_cons, OpenTag.withoutLayout]
    split
    · rfl
    cases current with
    | none => exact congrArg Except.ok (withoutLayout_add _ _)
    | some current =>
      refine (congrArg Except.ok (withoutLayout_add _ _)).trans ?_
      simp only [← Part.bodiesWithoutLayout_insert]
      cases main <;> rfl

/-- The next segment is put to a template without layout as to the template itself. -/
theorem withoutLayout_step (assembly : Assembly) (segment : Segment) :
    (assembly.step segment).map withoutLayout =
      assembly.withoutLayout.step segment.withoutLayout := by
  cases segment with
  | part part => exact congrArg Except.ok (assembly.withoutLayout_add part)
  | definition name => exact congrArg Except.ok (assembly.withoutLayout_define name [])
  | opening tag => rfl
  | body name span => exact assembly.withoutLayout_beginBody name span
  | closing key span => exact assembly.withoutLayout_close key span

/-- The fault of a tag that is not closed has nothing to do with layout. -/
theorem unclosed_withoutLayout (tag : OpenTag) : unclosed tag.withoutLayout = unclosed tag := by
  cases tag <;> rfl

/-- Segments are put to a template without layout as to the template itself. -/
theorem withoutLayout_run (assembly : Assembly) (segments : List Segment) :
    (assembly.run segments).map withoutLayout =
      assembly.withoutLayout.run (segments.map Segment.withoutLayout) := by
  induction segments generalizing assembly with
  | nil => rfl
  | cons segment rest induction =>
    have stepped := assembly.withoutLayout_step segment
    rw [List.map_cons, run, run, ← stepped]
    cases assembly.step segment with
    | error fault => rfl
    | ok next => exact induction next

/-- A complete template and what is left of it without layout. -/
theorem withoutLayout_finish (assembly : Assembly) :
    assembly.finish.map (fun found => (found.1.withoutLayout, Part.bodiesWithoutLayout found.2)) =
      assembly.withoutLayout.finish := by
  obtain ⟨opened, scopes, blocks⟩ := assembly
  simp only [finish, withoutLayout, List.getLast?_map]
  cases opened.getLast? with
  | some tag => exact congrArg Except.error (unclosed_withoutLayout tag).symm
  | none => cases scopes <;> rfl

end Assembly

/-- What segments without layout stand for is without layout. -/
theorem Body.ofSegments_withoutLayout (segments : Stream Segment) :
    Body.ofSegments { segments with items := segments.items.map Segment.withoutLayout } =
      (Body.ofSegments segments).map fun found =>
        (found.1.withoutLayout, Part.bodiesWithoutLayout found.2) := by
  have ran : (Assembly.start.run segments.items).map Assembly.withoutLayout =
      Assembly.start.run (segments.items.map Segment.withoutLayout) :=
    Assembly.start.withoutLayout_run segments.items
  unfold Body.ofSegments
  rw [← ran]
  cases Assembly.start.run segments.items with
  | error fault => rfl
  | ok assembly =>
    cases segments.failure with
    | some fault => rfl
    | none => exact assembly.withoutLayout_finish.symm

/-! ### Reading segments -/

namespace Segment

variable (input : Input) (readString : Token → Except Located Body)

/-- A segment that is read, with the tokens after it, is the same without its layout whatever
becomes of layout. -/
theorem read_withoutLayout (whitespace whitespace' : Whitespace) (first : Token)
    (tokens : List Token) :
    (read input readString whitespace first tokens).map (Prod.map withoutLayout id) =
      (read input readString whitespace' first tokens).map (Prod.map withoutLayout id) := by
  by_cases isRaw : first.kind = .raw
  · simp only [read, isRaw, Except.map, Prod.map, Segment.withoutLayout, Part.withoutLayout,
      String.toList_ofList, Whitespace.withoutLayout_apply]
  · unfold read
    split
    · contradiction
    all_goals rfl

/-- A segment that cannot be read is the end of the stream. -/
theorem stream_of_error {whitespace : Whitespace} {first : Token} {tokens : List Token}
    {fault : Located} (failed : read input readString whitespace first tokens = .error fault) :
    stream input readString whitespace (first :: tokens) = ⟨[], some fault⟩ := by
  rw [stream]
  split
  · rename_i same
    rw [failed] at same
    cases same
    rfl
  · rename_i found
    rw [failed] at found
    cases found

/-- The segments that are read are the same without their layout whatever becomes of layout. -/
theorem stream_withoutLayout (whitespace whitespace' : Whitespace) (tokens : List Token) :
    let segments := stream input readString whitespace tokens
    let segments' := stream input readString whitespace' tokens
    segments.items.map withoutLayout = segments'.items.map withoutLayout ∧
      segments.failure = segments'.failure := by
  fun_induction stream input readString whitespace tokens with
  | case1 => simp [stream]
  | case2 first rest fault failed =>
    have same := read_withoutLayout input readString whitespace whitespace' first rest
    rw [failed] at same
    cases found : read input readString whitespace' first rest with
    | error fault' =>
      rw [found] at same
      cases same
      rw [stream_of_error input readString found]
      exact ⟨rfl, rfl⟩
    | ok read =>
      rw [found] at same
      cases same
  | case3 first rest segment later succeeded induction =>
    have same := read_withoutLayout input readString whitespace whitespace' first rest
    rw [succeeded] at same
    cases found : read input readString whitespace' first rest with
    | error fault =>
      rw [found] at same
      cases same
    | ok read =>
      obtain ⟨segment', later'⟩ := read
      rw [found] at same
      obtain ⟨sameSegment, rfl⟩ := Prod.mk.inj (Except.ok.inj same)
      rw [stream_cons found]
      exact ⟨congrArg₂ List.cons sameSegment induction.1, induction.2⟩

end Segment

/-! ### Compiling -/

/-- What a text stands for is the same without its layout whatever becomes of layout. -/
theorem Body.ofText_withoutLayout (readString : Token → Except Located Body)
    (whitespace whitespace' : Whitespace) (source : List Char) (start : Nat) (text : List Char) :
    let strip (found : Body × Dict Body) :=
      (found.1.withoutLayout, Part.bodiesWithoutLayout found.2)
    (Body.ofText readString whitespace source start text).map strip =
      (Body.ofText readString whitespace' source start text).map strip := by
  intro strip
  simp only [Body.ofText, strip, ← Body.ofSegments_withoutLayout]
  have same := Segment.stream_withoutLayout
    ⟨source, (Token.stream .text start text).withoutBlanks.failure⟩ readString whitespace
    whitespace' (Token.stream .text start text).withoutBlanks.items
  rw [same.1, same.2]

/-- What a source is compiled to is the same without its layout whatever becomes of layout. -/
theorem Template.compile_withoutLayout (whitespace whitespace' : Whitespace) (source : String) :
    (Template.compile whitespace source).map Template.withoutLayout =
      (Template.compile whitespace' source).map Template.withoutLayout := by
  have same := Body.ofText_withoutLayout (Token.stringBody source.toList) whitespace whitespace'
    source.toList 0 source.toList
  have compiled (whitespace : Whitespace) :
      (Template.compile whitespace source).map Template.withoutLayout =
        ((Body.ofText (Token.stringBody source.toList) whitespace source.toList 0
          source.toList).map fun found =>
            (found.1.withoutLayout, Part.bodiesWithoutLayout found.2)).map fun (body, blocks) =>
              { source, body, blocks, path := none } := by
    unfold Template.compile
    cases Body.ofText (Token.stringBody source.toList) whitespace source.toList 0 source.toList <;>
      rfl
  rw [compiled, compiled, same]

/-- Compression affects layout only: a source is compiled with compression exactly if it is without,
with the same error otherwise, and both trees are the same without the layout of the texts that do
not stand in strings. -/
theorem compileSource_layout (source : String) :
    (compileSource .compress source).map Template.withoutLayout =
      (compileSource .preserve source).map Template.withoutLayout := by
  have swap (compiled : Except Located Template) :
      (compiled.mapError (Error.ofLocated source)).map Template.withoutLayout =
        (compiled.map Template.withoutLayout).mapError (Error.ofLocated source) := by
    cases compiled <;> rfl
  simp only [compileSource, swap, Template.compile_withoutLayout .compress .preserve source]

example : Body.withoutLayout [.text "\n a ", .text "b", .block ⟨"c", ⟨0, 1⟩⟩ (some [.text " "])] =
    [.text "ab", .block ⟨"c", ⟨0, 1⟩⟩ (some [])] := by
  rfl

end Dust
