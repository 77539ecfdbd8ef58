import Dust.Proofs.Syntax.Collecting

/-!
# The two stacks

Putting a template together has ways out that a template never takes: a part without a body around
it would be dropped, a tag whose body is missing would be reported as one that is not open, and a
section that lacks its main body would get an empty one. The strict machine has none of these. It
stops without an answer where a body that is asked for is not there, and where other bodies than
that of the template are left in the end. Since there is always one body more than there are open
tags, it never stops, and its answers are the same.
-/

namespace Dust

/-! ### The strict machine -/

namespace Assembly

/-- Adds a part to the innermost body, which has to be there. -/
def addStrictly (assembly : Assembly) (part : Part) : Option Assembly :=
  match assembly.scopes with
  | [] => none
  | scope :: outer => some { assembly with scopes := scope.push part :: outer }

/-- Takes the innermost body, which has to be there, off the others. -/
def popStrictly (assembly : Assembly) : Option (Body × List Body) :=
  match assembly.scopes with
  | [] => none
  | body :: outer => some (body, outer)

/-- Begins a named body of the innermost tag. If this is a section or helper, its body before has to
be there. -/
def beginBodyStrictly (assembly : Assembly) (name : String) (span : Span) :
    Option (Except Located Assembly) :=
  match assembly.opened with
  | .element head params key tagSpan main bodies current :: opened => do
    let (body, scopes) ← assembly.popStrictly
    let (main, bodies) := match current with
      | none => (some body, bodies)
      | some current => (main, bodies.insert current body)
    some (.ok { assembly with
      opened := .element head params key tagSpan main bodies (some name) :: opened
      scopes := [] :: scopes })
  | _ => some (.error ⟨.strayBody name, span⟩)

/-- The main body and the named bodies of a section or helper whose last body is complete. Behind a
named body the main one has to be there. -/
def completeStrictly (main : Option Body) (bodies : Dict Body) (current : Option String)
    (body : Body) : Option (Body × Dict Body) :=
  match current with
  | none => some (body, bodies)
  | some current => do some (← main, bodies.insert current body)

/-- Closes the innermost tag. If there is one, its body has to be there, and a part that it makes is
added strictly. -/
def closeStrictly (assembly : Assembly) (key : String) (span : Span) :
    Option (Except Located Assembly) :=
  match assembly.opened with
  | [] => some (.error ⟨.strayClose key, span⟩)
  | tag :: opened => do
    let (body, scopes) ← assembly.popStrictly
    let outer : Assembly := { assembly with opened, scopes }
    match tag with
    | .element head params tagKey tagSpan main bodies current =>
      if tagKey ≠ key then some (.error ⟨.mismatchedClose tagKey key, span⟩)
      else do
        let (main, bodies) ← completeStrictly main bodies current body
        let next ← outer.addStrictly (.element head params (some main) bodies (tagSpan.cover span))
        some (.ok next)
    | .block name defines =>
      if name.name ≠ key then some (.error ⟨.mismatchedClose name.name key, span⟩)
      else if defines then some (.ok (outer.define name.name body))
      else do some (.ok (← outer.addStrictly (.block name (some body))))

/-- Puts one more segment to a template, strictly. -/
def stepStrictly (assembly : Assembly) : Segment → Option (Except Located Assembly)
  | .part part => do some (.ok (← assembly.addStrictly part))
  | .definition name => some (.ok (assembly.define name []))
  | .opening tag => some (.ok (assembly.openTag tag))
  | .body name span => assembly.beginBodyStrictly name span
  | .closing key span => assembly.closeStrictly key span

/-- Puts segments together strictly. -/
def runStrictly (assembly : Assembly) : List Segment → Option (Except Located Assembly)
  | [] => some (.ok assembly)
  | segment :: rest => do
    match ← assembly.stepStrictly segment with
    | .error fault => some (.error fault)
    | .ok next => next.runStrictly rest

/-- The body and the inline partials of a template that is complete. If no tag is open, its body has
to be the only one that is left. -/
def finishStrictly (assembly : Assembly) : Option (Except Located (Body × Dict Body)) :=
  match assembly.opened.getLast?, assembly.scopes with
  | some tag, _ => some (.error (unclosed tag))
  | none, [body] => some (.ok (body, assembly.blocks))
  | none, _ => none

end Assembly

/-- The body and the inline partials that a stream of segments stands for, put together strictly. -/
def Body.ofSegmentsStrictly (segments : Stream Segment) :
    Option (Except Located (Body × Dict Body)) := do
  match ← Assembly.start.runStrictly segments.items with
  | .error fault => some (.error fault)
  | .ok assembly =>
    match segments.failure with
    | some fault => some (.error fault)
    | none => assembly.finishStrictly

/-! ### Tags that are opened -/

/-- Nothing is known of the bodies of a tag yet. -/
def OpenTag.IsFresh : OpenTag → Prop
  | .element _ _ _ _ main bodies current => main = none ∧ bodies = [] ∧ current = none
  | .block _ _ => True

/-- A tag that is opened has no bodies yet. -/
def Segment.OpensFresh (segment : Segment) : Prop :=
  ∀ tag, segment = .opening tag → tag.IsFresh

namespace Segment

variable {input : Input} {readString : Token → Except Located Body} {whitespace : Whitespace}
  {first : Token} {tokens rest : List Token} {segment : Segment}

/-- A section or helper is opened without bodies. -/
theorem readElement_opensFresh {head : Head} {key : String}
    (read : readElement input readString first head key tokens = .ok (segment, rest)) :
    segment.OpensFresh := by
  obtain ⟨params, last, -, complete | opened⟩ := readElement_cases read
  · nofun
  · rintro _ ⟨⟩
    exact ⟨rfl, rfl, rfl⟩

/-- Whatever is opened is opened without bodies. -/
theorem read_opensFresh
    (found : read input readString whitespace first tokens = .ok (segment, rest)) :
    segment.OpensFresh := by
  rcases read_cases found with ⟨kind, found⟩ | ⟨-, found⟩ | ⟨defines, -, found⟩ | ⟨flat, -⟩
  · obtain ⟨⟨path, _⟩, -, found⟩ := bind_eq_ok found
    exact readElement_opensFresh found
  · obtain ⟨⟨name, _⟩, -, found⟩ := bind_eq_ok found
    exact readElement_opensFresh found
  · obtain ⟨name, last, -, -, read⟩ := readBlock_cases found
    cases read with
    | definition | block => nofun
    | opened =>
      rintro _ ⟨⟩
      trivial
  · rintro tag rfl
    cases flat

/-- The tags of a stream are opened without bodies. -/
theorem stream_opensFresh (input : Input) (readString : Token → Except Located Body)
    (whitespace : Whitespace) (tokens : List Token) :
    ∀ segment ∈ (stream input readString whitespace tokens).items, segment.OpensFresh := by
  fun_induction stream input readString whitespace tokens with
  | case1 => simp
  | case2 => simp
  | case3 first rest segment later found induction =>
    exact List.forall_mem_cons.mpr ⟨read_opensFresh found, induction⟩

end Segment

/-! ### Stacks in step -/

/-- A tag has a main body as soon as a named one has begun. -/
def OpenTag.HasMain : OpenTag → Prop
  | .element _ _ _ _ main _ current => current.isSome = true → main.isSome = true
  | .block _ _ => True

namespace Assembly

/-- The stacks are in step: every open tag collects a body, and one more is that of the template. -/
structure InStep (assembly : Assembly) : Prop where
  /-- There is one body more than there are open tags. -/
  bodies : assembly.scopes.length = assembly.opened.length + 1
  /-- No tag collects a named body without having a main one. -/
  mains : ∀ tag ∈ assembly.opened, tag.HasMain

variable {assembly next : Assembly} {segment : Segment}

/-- At the beginning there is the body of the template. -/
theorem start_inStep : start.InStep :=
  ⟨rfl, by simp [start]⟩

namespace InStep

/-- There is a body that is being collected. -/
theorem exists_scope (inStep : assembly.InStep) :
    ∃ body outer, assembly.scopes = body :: outer ∧ outer.length = assembly.opened.length := by
  have length := inStep.bodies
  cases scopes : assembly.scopes with
  | nil => simp [scopes] at length
  | cons body outer => exact ⟨body, outer, rfl, by simpa [scopes] using length⟩

/-- A part is added to a body that is there. -/
theorem add (inStep : assembly.InStep) (part : Part) :
    assembly.addStrictly part = some (assembly.add part) ∧ (assembly.add part).InStep := by
  obtain ⟨body, outer, scopes, length⟩ := inStep.exists_scope
  unfold addStrictly Assembly.add
  rw [scopes]
  exact ⟨rfl, by simpa using length, inStep.mains⟩

/-- A tag that has no bodies yet collects one of its own. -/
theorem openTag {tag : OpenTag} (inStep : assembly.InStep) (fresh : tag.IsFresh) :
    (assembly.openTag tag).InStep := by
  have hasMain : tag.HasMain := by
    cases tag with
    | element head params key span main bodies current =>
      obtain ⟨rfl, rfl, rfl⟩ := fresh
      nofun
    | block name defines => trivial
  exact ⟨by simp [Assembly.openTag, inStep.bodies],
    List.forall_mem_cons.mpr ⟨hasMain, inStep.mains⟩⟩

/-- Around the innermost tag and its body the stacks are in step. -/
theorem enclosing {outer : Assembly} {tag : OpenTag} {body : Body}
    (inStep : InStep ⟨tag :: outer.opened, body :: outer.scopes, outer.blocks⟩) :
    outer.InStep where
  bodies := by simpa using inStep.bodies
  mains := (List.forall_mem_cons.mp inStep.mains).2

/-- Where a named body begins the stacks stay in step. -/
theorem begun {name : String} {span : Span} (inStep : assembly.InStep)
    (begins : assembly.beginBody name span = .ok next) : next.InStep := by
  cases beginBody_cases begins with
  | afterMain =>
    exact ⟨by simpa using inStep.bodies,
      List.forall_mem_cons.mpr ⟨fun _ => rfl, inStep.enclosing.mains⟩⟩
  | afterNamed current =>
    obtain ⟨here, around⟩ := List.forall_mem_cons.mp inStep.mains
    exact ⟨by simpa using inStep.bodies, List.forall_mem_cons.mpr ⟨fun _ => here rfl, around⟩⟩

/-- The body before a named one is there, and is the main one if there was none. -/
theorem beginBody (inStep : assembly.InStep) (name : String) (span : Span) :
    assembly.beginBodyStrictly name span = some (assembly.beginBody name span) := by
  obtain ⟨opened, scopes, blocks⟩ := assembly
  obtain ⟨body, outer, same, -⟩ := inStep.exists_scope
  simp only at same
  subst same
  cases opened with
  | nil => rfl
  | cons tag opened =>
    cases tag with
    | block => rfl
    | element head params key tagSpan main bodies current => cases current <;> rfl

/-- Where a tag is closed the stacks stay in step. -/
theorem closed {key : String} {span : Span} (inStep : assembly.InStep)
    (closes : assembly.close key span = .ok next) : next.InStep := by
  cases close_cases closes with
  | main | named | block => exact (inStep.enclosing.add _).2
  | definition => exact ⟨inStep.enclosing.bodies, inStep.enclosing.mains⟩

/-- The body of a tag that is closed is there, and so is the body around it, which takes the part
that the tag makes. -/
theorem close (inStep : assembly.InStep) (key : String) (span : Span) :
    assembly.closeStrictly key span = some (assembly.close key span) := by
  obtain ⟨opened, scopes, blocks⟩ := assembly
  obtain ⟨body, outer, same, -⟩ := inStep.exists_scope
  simp only at same
  subst same
  cases opened with
  | nil => rfl
  | cons tag opened =>
    have added := (@enclosing ⟨opened, outer, blocks⟩ tag body inStep).add
    cases tag with
    | element head params tagKey tagSpan main bodies current =>
      simp only [closeStrictly, Assembly.close, popStrictly, Option.bind_eq_bind, Option.bind_some]
      by_cases other : tagKey ≠ key
      · rw [if_pos other, if_pos other]
      · rw [if_neg other, if_neg other]
        cases current with
        | none => simp only [completeStrictly, Option.bind_some, (added _).1]
        | some current =>
          have hasMain := (List.forall_mem_cons.mp inStep.mains).1
          obtain ⟨whole, rfl⟩ := Option.isSome_iff_exists.mp (hasMain rfl)
          simp only [completeStrictly, Option.bind_eq_bind, Option.bind_some, Option.getD_some,
            (added _).1]
    | block name defines =>
      simp only [closeStrictly, Assembly.close, popStrictly, Option.bind_eq_bind, Option.bind_some]
      by_cases other : name.name ≠ key
      · rw [if_pos other, if_pos other]
      · rw [if_neg other, if_neg other]
        cases defines with
        | true => rfl
        | false =>
          simp only [(added _).1, Option.bind_some]
          rfl

/-- A segment that is put to stacks in step leaves them in step, and asks for nothing that is not
there. -/
theorem step (inStep : assembly.InStep) (fresh : segment.OpensFresh) :
    assembly.stepStrictly segment = some (assembly.step segment) ∧
      ∀ next, assembly.step segment = .ok next → next.InStep := by
  cases segment with
  | part part =>
    obtain ⟨added, kept⟩ := inStep.add part
    refine ⟨by simp [stepStrictly, added, Assembly.step], ?_⟩
    rintro _ ⟨⟩
    exact kept
  | definition name =>
    refine ⟨rfl, ?_⟩
    rintro _ ⟨⟩
    exact ⟨inStep.bodies, inStep.mains⟩
  | opening tag =>
    refine ⟨rfl, ?_⟩
    rintro _ ⟨⟩
    exact inStep.openTag (fresh tag rfl)
  | body name span => exact ⟨inStep.beginBody name span, fun _ => inStep.begun⟩
  | closing key span => exact ⟨inStep.close key span, fun _ => inStep.closed⟩

/-- Segments that are put to stacks in step leave them in step, and ask for nothing that is not
there. -/
theorem run {segments : List Segment} (inStep : assembly.InStep)
    (fresh : ∀ segment ∈ segments, segment.OpensFresh) :
    assembly.runStrictly segments = some (assembly.run segments) ∧
      ∀ final, assembly.run segments = .ok final → final.InStep := by
  induction segments generalizing assembly with
  | nil =>
    refine ⟨rfl, ?_⟩
    rintro _ ⟨⟩
    exact inStep
  | cons segment rest induction =>
    obtain ⟨here, behind⟩ := List.forall_mem_cons.mp fresh
    obtain ⟨same, kept⟩ := inStep.step here
    unfold runStrictly Assembly.run
    rw [same]
    cases stepped : assembly.step segment with
    | error fault =>
      refine ⟨rfl, ?_⟩
      rintro _ ⟨⟩
    | ok next => exact induction (kept next stepped) behind

/-- If no tag is open in the end, the body of the template is the only one that is left. -/
theorem finish (inStep : assembly.InStep) :
    assembly.finishStrictly = some assembly.finish := by
  obtain ⟨body, outer, scopes, length⟩ := inStep.exists_scope
  unfold finishStrictly Assembly.finish
  rw [scopes]
  cases last : assembly.opened.getLast? with
  | some tag => rfl
  | none =>
    have closed : assembly.opened = [] := List.getLast?_eq_none_iff.mp last
    rw [closed, List.length_nil] at length
    rw [List.eq_nil_of_length_eq_zero length]
    rfl

end InStep

/-- Whatever tokens are read, before each of their segments there is one body more than there are
open tags. So nothing that is put together is asked for in vain, dropped or left over: the strict
machine has an answer, and it is the same one. -/
theorem stacks_in_step (input : Input) (readString : Token → Except Located Body)
    (whitespace : Whitespace) (tokens : List Token) :
    let segments := Segment.stream input readString whitespace tokens
    (∀ done assembly, done <+: segments.items → start.run done = .ok assembly →
      assembly.scopes.length = assembly.opened.length + 1) ∧
      Body.ofSegmentsStrictly segments = some (Body.ofSegments segments) := by
  intro segments
  have fresh : ∀ segment ∈ segments.items, segment.OpensFresh :=
    Segment.stream_opensFresh input readString whitespace tokens
  refine ⟨fun done assembly begins reached => ?_, ?_⟩
  · have reads : ∀ segment ∈ done, segment.OpensFresh := fun segment mem =>
      fresh segment (begins.mem mem)
    exact ((start_inStep.run reads).2 assembly reached).bodies
  · obtain ⟨same, kept⟩ := start_inStep.run fresh
    unfold Body.ofSegmentsStrictly Body.ofSegments
    rw [same]
    cases ran : start.run segments.items with
    | error fault => rfl
    | ok assembly =>
      simp only [bind, Option.bind, Except.bind]
      cases segments.failure with
      | some fault => rfl
      | none => exact (kept assembly ran).finish

end Assembly

end Dust
