import Dust.Syntax.Segment

/-!
# From segments to a tree

Segments are put together with two stacks: the tags that are open, and the bodies that are being
collected. Every open tag collects a body, and below them is the body of the template, so that
there is always one body more than there are open tags. Inline partials are set aside by name.
-/

namespace Dust

/-- A template that is being put together. -/
structure Assembly where
  /-- The open tags, innermost first. -/
  opened : List OpenTag
  /-- The bodies that are being collected, innermost first. -/
  scopes : List Body
  /-- The inline partials that are complete. -/
  blocks : Dict Body

namespace Assembly

/-- The beginning of a template. -/
def start : Assembly :=
  ⟨[], [[]], []⟩

/-- Adds a part to the innermost body. -/
def add (assembly : Assembly) (part : Part) : Assembly :=
  match assembly.scopes with
  | [] => assembly
  | scope :: outer => { assembly with scopes := scope.push part :: outer }

/-- Opens a tag, which collects a body of its own. -/
def openTag (assembly : Assembly) (tag : OpenTag) : Assembly :=
  { assembly with opened := tag :: assembly.opened, scopes := [] :: assembly.scopes }

/-- Sets an inline partial aside. -/
def define (assembly : Assembly) (name : String) (body : Body) : Assembly :=
  { assembly with blocks := assembly.blocks.insert name body }

/-- Completes the innermost body and begins a named one of the same section or helper. -/
def beginBody (assembly : Assembly) (name : String) (span : Span) : Except Located Assembly :=
  match assembly.opened, assembly.scopes with
  | .element head params key tagSpan main bodies current :: opened, body :: scopes =>
    let (main, bodies) := match current with
      | none => (some body, bodies)
      | some current => (main, bodies.insert current body)
    .ok { assembly with
      opened := .element head params key tagSpan main bodies (some name) :: opened
      scopes := [] :: scopes }
  | _, _ => .error ⟨.strayBody name, span⟩

/-- Closes the innermost tag. -/
def close (assembly : Assembly) (key : String) (span : Span) : Except Located Assembly :=
  match assembly.opened, assembly.scopes with
  | tag :: opened, body :: scopes =>
    let outer : Assembly := { assembly with opened, scopes }
    match tag with
    | .element head params tagKey tagSpan main bodies current =>
      if tagKey ≠ key then .error ⟨.mismatchedClose tagKey key, span⟩
      else
        let (main, bodies) := match current with
          | none => (body, bodies)
          | some current => (main.getD [], bodies.insert current body)
        .ok (outer.add (.element head params (some main) bodies (tagSpan.cover span)))
    | .block name defines =>
      if name.name ≠ key then .error ⟨.mismatchedClose name.name key, span⟩
      else if defines then .ok (outer.define name.name body)
      else .ok (outer.add (.block name (some body)))
  | _, _ => .error ⟨.strayClose key, span⟩

/-- Puts one more segment to a template. -/
def step (assembly : Assembly) : Segment → Except Located Assembly
  | .part part => .ok (assembly.add part)
  | .definition name => .ok (assembly.define name [])
  | .opening tag => .ok (assembly.openTag tag)
  | .body name span => assembly.beginBody name span
  | .closing key span => assembly.close key span

/-- Puts segments together. -/
def run (assembly : Assembly) : List Segment → Except Located Assembly
  | [] => .ok assembly
  | segment :: rest =>
    match assembly.step segment with
    | .error fault => .error fault
    | .ok next => next.run rest

/-- The fault of a tag that is not closed. -/
def unclosed : OpenTag → Located
  | .element _ _ key span _ _ _ => ⟨.unclosedSection key, span⟩
  | .block name _ => ⟨.unclosedBlock name.name, name.span⟩

/-- The body and the inline partials of a template that is complete. Of several tags that are not
closed the outermost one is at fault. -/
def finish (assembly : Assembly) : Except Located (Body × Dict Body) :=
  match assembly.opened.getLast? with
  | some tag => .error (unclosed tag)
  | none => .ok (assembly.scopes.headD [], assembly.blocks)

/-! ### What a step can do -/

/-- How a named body begins in a section or helper, whose body before it is complete then. -/
inductive BeginsBody (name : String) : Assembly → Assembly → Prop where
  /-- The main body is complete. -/
  | afterMain {outer : Assembly} {head : Head} {params : List Param} {key : String} {span : Span}
    {main : Option Body} {bodies : Dict Body} {body : Body} :
    BeginsBody name
      ⟨.element head params key span main bodies none :: outer.opened, body :: outer.scopes,
        outer.blocks⟩
      ⟨.element head params key span (some body) bodies (some name) :: outer.opened,
        [] :: outer.scopes, outer.blocks⟩
  /-- The named body is complete that went on. -/
  | afterNamed {outer : Assembly} {head : Head} {params : List Param} {key : String} {span : Span}
    {main : Option Body} {bodies : Dict Body} {body : Body} (current : String) :
    BeginsBody name
      ⟨.element head params key span main bodies (some current) :: outer.opened,
        body :: outer.scopes, outer.blocks⟩
      ⟨.element head params key span main (bodies.insert current body) (some name) :: outer.opened,
        [] :: outer.scopes, outer.blocks⟩

/-- How a tag is closed, which becomes a part of the body around it unless it is an inline
partial. -/
inductive Closes (key : String) (span : Span) : Assembly → Assembly → Prop where
  /-- The main body is the last one. -/
  | main {outer : Assembly} {head : Head} {params : List Param} {tagSpan : Span}
    {main : Option Body} {bodies : Dict Body} {body : Body} :
    Closes key span
      ⟨.element head params key tagSpan main bodies none :: outer.opened, body :: outer.scopes,
        outer.blocks⟩
      (outer.add (.element head params (some body) bodies (tagSpan.cover span)))
  /-- A named body is the last one. -/
  | named {outer : Assembly} {head : Head} {params : List Param} {tagSpan : Span}
    {main : Option Body} {bodies : Dict Body} {body : Body} (current : String) :
    Closes key span
      ⟨.element head params key tagSpan main bodies (some current) :: outer.opened,
        body :: outer.scopes, outer.blocks⟩
      (outer.add (.element head params (some (main.getD [])) (bodies.insert current body)
        (tagSpan.cover span)))
  /-- A block takes its body. -/
  | block {outer : Assembly} {name : Identifier} {body : Body} (same : name.name = key) :
    Closes key span
      ⟨.block name false :: outer.opened, body :: outer.scopes, outer.blocks⟩
      (outer.add (.block name (some body)))
  /-- An inline partial is set aside with its body. -/
  | definition {outer : Assembly} {name : Identifier} {body : Body} (same : name.name = key) :
    Closes key span
      ⟨.block name true :: outer.opened, body :: outer.scopes, outer.blocks⟩
      (outer.define name.name body)

variable {assembly next : Assembly}

/-- A named body that begins completes the one before it. -/
theorem beginBody_cases {name : String} {span : Span}
    (begun : assembly.beginBody name span = .ok next) : BeginsBody name assembly next := by
  obtain ⟨opened, scopes, blocks⟩ := assembly
  unfold beginBody at begun
  split at begun
  · rename_i current opened _ scopes sameOpened sameScopes
    simp only at sameOpened sameScopes
    subst sameOpened sameScopes
    let outer : Assembly := ⟨opened, scopes, blocks⟩
    cases begun
    cases current with
    | none => exact @BeginsBody.afterMain _ outer ..
    | some current => exact @BeginsBody.afterNamed _ outer _ _ _ _ _ _ _ current
  · cases begun

/-- The tag that is closed has the key of the close tag. -/
theorem close_cases {key : String} {span : Span} (closed : assembly.close key span = .ok next) :
    Closes key span assembly next := by
  obtain ⟨opened, scopes, blocks⟩ := assembly
  unfold close at closed
  split at closed
  · rename_i tag opened body scopes sameOpened sameScopes
    simp only at sameOpened sameScopes
    subst sameOpened sameScopes
    let outer : Assembly := ⟨opened, scopes, blocks⟩
    cases tag with
    | element head params tagKey tagSpan main bodies current =>
      simp only at closed
      split at closed
      · cases closed
      · rename_i same
        obtain rfl := Decidable.not_not.mp same
        cases closed
        cases current with
        | none => exact @Closes.main _ _ outer ..
        | some current => exact @Closes.named _ _ outer _ _ _ _ _ _ current
    | block name defines =>
      simp only at closed
      split at closed
      · cases closed
      · rename_i same
        cases defines with
        | true =>
          cases closed
          exact @Closes.definition _ _ outer _ _ (Decidable.not_not.mp same)
        | false =>
          cases closed
          exact @Closes.block _ _ outer _ _ (Decidable.not_not.mp same)
  · cases closed

/-- Segments are put together by putting together the first one and then the others. -/
theorem run_cons_eq_ok {segment : Segment} {segments : List Segment} {final : Assembly}
    (together : assembly.run (segment :: segments) = .ok final) :
    ∃ next, assembly.step segment = .ok next ∧ next.run segments = .ok final := by
  rw [run] at together
  split at together
  · cases together
  · exact ⟨_, by assumption, together⟩

end Assembly

/-- The body and the inline partials that a stream of segments stands for. -/
def Body.ofSegments (segments : Stream Segment) : Except Located (Body × Dict Body) := do
  let assembly ← Assembly.start.run segments.items
  match segments.failure with
  | some fault => .error fault
  | none => assembly.finish

end Dust
