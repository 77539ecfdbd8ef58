import Dust.Render.Helper
import Dust.Store.Load

/-!
# Rendering

Every part of a body writes into the output in turn. How the bodies in a part are rendered is given
as an argument, so that the recursion is in one place: it goes from a body into bodies of its parts,
into inline partials of other templates and into included templates, and is bounded by a number.
-/

namespace Dust

/-- What stays the same throughout a render. -/
structure Renderer where
  /-- The helpers by name. -/
  helpers : Dict Helper
  /-- The filters. -/
  filters : FilterSet
  /-- How deep templates may include each other. -/
  maxDepth : Nat
  /-- Where templates come from. -/
  sources : Sources
  /-- The values that are seen when nothing else is. -/
  globals : Value

/-- The template that a body is rendered in, and how deep it is included. -/
structure Origin where
  /-- The template. -/
  template : Template
  /-- The number of inclusions around. -/
  depth : Nat

/-- A way to render bodies. -/
abbrev BodyRender := Origin → Context → Body → RenderM Unit

/-- Notes an error at a place of the template. -/
def Origin.noteError (origin : Origin) (error : Error) (span : Span) : RenderM Unit :=
  RenderM.noteError (some (error.withLocation origin.template.source span))

/-- Notes a fault of rendering at a place of the template. -/
def Origin.noteFault (origin : Origin) (fault : RenderFault) (span : Span) : RenderM Unit :=
  origin.noteError (Error.ofRender fault) span

/-- Notes at a place of the template what a helper has given up for, if it has. -/
def Origin.noteOutcome (origin : Origin) (span : Span) : Except RenderFault Unit → RenderM Unit
  | .ok _ => return
  | .error fault => origin.noteFault fault span

namespace Renderer

variable (renderer : Renderer) (render : BodyRender) (origin : Origin) (context : Context)

/-- The values around all frames. -/
def scope : RenderM Scope := do
  return ⟨(← get).root, renderer.globals⟩

/-- The parameters of a tag. -/
def params (list : List Param) : Params :=
  { list, context, globals := renderer.globals, render := render origin }

/-- Renders a reference. Nothing is written if there is no value. -/
def renderReference (path : Path) (filters : List Identifier) : RenderM Unit := do
  match context.get? (← renderer.scope) path with
  | none => return
  | some value =>
    match renderer.filters.unknown? filters with
    | some filter => origin.noteFault (.unknownFilter filter.name) filter.span
    | none => pure ()
    RenderM.write (renderer.filters.apply (filters.map Identifier.name) value).display

/-- Renders a body for the items of a list from a position on. -/
def renderItems (length : Nat) (body : Body) (index : Nat) : List Value → RenderM Unit
  | [] => return
  | item :: rest => do
    render origin (.value item (some ⟨index, length⟩) :: context) body
    renderItems length body (index + 1) rest

/-- Renders the main body of a section for the items of a list, or for one value. -/
def renderFor (body : Body) : Value → RenderM Unit
  | .list items => renderItems render origin context items.length body 0 items
  | value => render origin (.value value none :: context) body

/-- Renders a body if there is one. -/
def renderOptional (body : Option Body) : RenderM Unit :=
  match body with
  | some body => render origin context body
  | none => return

/-- Puts the values of parameters around the bodies of a section, unless there are none. -/
def withParams (list : List Param) : RenderM Context := do
  if list.isEmpty then return context
  else
    let values ← RenderM.gathered (renderer.params render origin context list).resolveAll
    return .value (.map values) none :: context

/-- Renders the body of a section that its value asks for. -/
def renderChoice (kind : SectionKind) (value : Option Value) (main : Option Body)
    (bodies : Dict Body) : RenderM Unit :=
  match kind, value.any Value.isTruthy with
  | .iterate, true =>
    match main, value with
    | some body, some value => renderFor render origin context body value
    | _, _ => return
  | .present, true | .absent, false => renderOptional render origin context main
  | _, _ => renderOptional render origin context (bodies.get? "else")

/-- Renders a section. Its value is found before its parameters are. -/
def renderTest (kind : SectionKind) (key : Path) (list : List Param) (main : Option Body)
    (bodies : Dict Body) : RenderM Unit := do
  let value := context.get? (← renderer.scope) key
  let context ← renderer.withParams render origin context list
  renderChoice render origin context kind value main bodies

/-- Runs a helper. A probe does nothing in a render. -/
def runHelper (call : Call) : Helper → RenderM (Except RenderFault Unit)
  | .block run => (run call).run
  | .value run => do
    match ← (run call).run with
    | .ok value =>
      RenderM.write value.display
      return .ok ()
    | .error fault => return .error fault
  | .probe _ => return .ok ()

/-- Renders a call of a helper. What is wrong in its parameters is noted before what the helper
itself gives up for. -/
def renderHelper (name : Identifier) (list : List Param) (main : Option Body)
    (bodies : Dict Body) (span : Span) : RenderM Unit := do
  match renderer.helpers.get? name.name with
  | none => origin.noteFault (.unknownHelper name.name) name.span
  | some helper =>
    let params := renderer.params render origin context list
    let call : Call := { params with main, bodies, filters := renderer.filters }
    origin.noteOutcome span (← RenderM.gathered (runHelper call helper))

/-- Renders a block: the inline partial of its name, or else what it holds. -/
def renderBlock (name : Identifier) (main : Option Body) : RenderM Unit :=
  renderOptional render origin context ((context.block? name.name).or main)

/-- Finds the name of an included template. -/
def targetName : Target → RenderM String
  | .static name => return name
  | .dynamic body => RenderM.named (render origin context body)

/-- The context of an included template. -/
def innerContext (value : Option Value) (params : Dict Value) (template : Template) : Context :=
  let context := match value with
    | some value => .value value none :: context
    | none => context
  let context := if params.isEmpty then context else .value (.map params) none :: context
  .blocks template.blocks :: context

/-- Renders an included template into an output of its own, which is then appended. -/
def renderIncluded (name : String) (template : Template) (way : Option Path)
    (list : List Param) : RenderM Unit := do
  let values ← RenderM.gathered (renderer.params render origin context list).resolveAll
  let scope ← renderer.scope
  let value := way.bind fun path => context.get? scope path
  RenderM.included name
    (render ⟨template, origin.depth + 1⟩ (innerContext context value values template)
      template.body)

/-- Renders what has been found in place of a tag. Nothing is written if there is no template. -/
def renderFound (name : String) (way : Option Path) (list : List Param) (span : Span) :
    Except Error (Option Template) → RenderM Unit
  | .error error => origin.noteError error span
  | .ok none => return
  | .ok (some template) => renderer.renderIncluded render origin context name template way list

/-- Renders another template in place of a tag. -/
def renderInclusion (target : Target) (way : Option Path) (list : List Param) (span : Span) :
    RenderM Unit := do
  if renderer.maxDepth ≤ origin.depth then
    origin.noteFault (.includedTooDeep renderer.maxDepth) span
  else
    let name ← targetName render origin context target
    let base := origin.template.directory?
    let found ← RenderM.withStore fun store => store.load renderer.sources name base
    renderer.renderFound render origin context name way list span found

/-- Renders a part. -/
def renderPart : Part → RenderM Unit
  | .text content => RenderM.write content
  | .comment _ => return
  | .reference path filters _ => renderer.renderReference origin context path filters
  | .element (.test kind key) list main bodies _ =>
    renderer.renderTest render origin context kind key list main bodies
  | .element (.helper name) list main bodies span =>
    renderer.renderHelper render origin context name list main bodies span
  | .block name main => renderBlock render origin context name main
  | .inclusion target way list span =>
    renderer.renderInclusion render origin context target way list span

/-- Renders parts in order. -/
def renderParts : Body → RenderM Unit
  | [] => return
  | part :: rest => do
    renderer.renderPart render origin context part
    renderParts rest

/-- Renders bodies that are nested in each other up to a bound. -/
def renderBody (bound : Nat) : BodyRender := fun origin context body =>
  match bound with
  | 0 => throw .exhausted
  | bound + 1 => renderer.renderParts (renderBody bound) origin context body

/-- Renders a whole template. -/
def renderTemplate (bound : Nat) (template : Template) : RenderM Unit :=
  renderer.renderBody bound ⟨template, 0⟩ [.blocks template.blocks] template.body

end Renderer

end Dust
