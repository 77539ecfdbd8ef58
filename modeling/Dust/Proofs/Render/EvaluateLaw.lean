import Dust.Proofs.Render.HelperLaw
import Dust.Proofs.Render.Run
import Dust.Proofs.Render.Site

/-!
# Rendering, step by step

The evaluator renders one part after the other, and each part is made of steps: looking up values,
writing, noting errors, running a helper, and rendering bodies in place, into an output of their own
or as strings. A relation that keeps these steps holds between two ways to render a body if it holds
between the two ways to render all bodies that this one enters.

Errors make a difference: while the values of parameters are found the errors of strings are set
aside, and an error is raised where a part has nothing more to do. So there is one relation for what
a part does, one for finding the values of parameters, and one for whole parts. They may be the
same, and are where it does not matter what becomes of an error.
-/

namespace Dust

/-- Relations that the steps of the evaluator keep which leave the data alone. -/
structure RenderFlowLaw (sources : Sources) (loads : Loads) (Rel Quiet Whole : StepRel) : Prop
    extends CalmLaw Rel where
  /-- The elementary steps are kept also while the values of parameters are found. -/
  quietFlow : CalmLaw Quiet
  /-- A string may be rendered while the values of parameters are found. -/
  quoted : ∀ {step step' : RenderM Unit}, Rel step step' →
    Quiet (RenderM.quoted step) (RenderM.quoted step')
  /-- The values of parameters may be found. -/
  gathered : ∀ {α : Type} {step step' : RenderM α}, Quiet step step' →
    Rel (RenderM.gathered step) (RenderM.gathered step')
  /-- The name of a template may be rendered. -/
  named : ∀ {step step' : RenderM Unit}, Rel step step' →
    Rel (RenderM.named step) (RenderM.named step')
  /-- A template may be included. -/
  included : ∀ {name : String} {step step' : RenderM Unit}, Rel step step' →
    Rel (RenderM.included name step) (RenderM.included name step')
  /-- A part may do what is related. -/
  whole : ∀ {step step' : RenderM Unit}, Rel step step' → Whole step step'
  /-- A part may do something first. -/
  after : ∀ {α : Type} {first first' : RenderM α} {next next' : α → RenderM Unit},
    Rel first first' → (∀ value, Whole (next value) (next' value)) →
      Whole (first >>= next) (first' >>= next')
  /-- A part may load a template first. -/
  loaded : ∀ {name : String} {base : Option FilePath}
    {next next' : Except Error (Option Template) → RenderM Unit},
    (∀ result, (∀ template, result = .ok (some template) → loads name base template) →
      Whole (next result) (next' result)) →
      Whole (RenderM.withStore (fun store => store.load sources name base) >>= next)
        (RenderM.withStore (fun store => store.load sources name base) >>= next')
  /-- A part may raise an error. -/
  raise : ∀ (origin : Origin) (error : Error) (span : Span),
    Whole (origin.noteError error span) (origin.noteError error span)
  /-- A part may write something after an error. -/
  raiseWrite : ∀ (origin : Origin) (error : Error) (span : Span) (text : String),
    Whole (do origin.noteError error span; RenderM.write text)
      (do origin.noteError error span; RenderM.write text)

/-- Relations that the steps of the evaluator keep. -/
structure RenderLaw (sources : Sources) (loads : Loads) (Rel Quiet Whole : StepRel) : Prop
    extends StepLaw Rel, RenderFlowLaw sources loads Rel Quiet Whole where
  /-- The elementary steps are kept also while the values of parameters are found. -/
  quiet : StepLaw Quiet
  quietFlow := quiet.toCalmLaw

/-- Relations that make no difference of what becomes of an error: they are kept by all bodies with
an output of their own. -/
structure OutputLaw (sources : Sources) (loads : Loads) (Rel : StepRel) : Prop where
  /-- A body may be rendered with an output of its own. -/
  apart : ∀ {α : Type} {wrapped wrapped' : RenderM α} {step step' : RenderM Unit}
    {value : Output → α} {shown : Output → Output} {aside : Output → Option Error},
    RenderM.RunsApart wrapped step value shown aside →
      RenderM.RunsApart wrapped' step' value shown aside → Rel step step' → Rel wrapped wrapped'
  /-- The errors of strings may be gathered. -/
  gathered : ∀ {α : Type} {step step' : RenderM α}, Rel step step' →
    Rel (RenderM.gathered step) (RenderM.gathered step')
  /-- A template may be loaded first. -/
  loaded : ∀ {name : String} {base : Option FilePath}
    {next next' : Except Error (Option Template) → RenderM Unit},
    (∀ result, (∀ template, result = .ok (some template) → loads name base template) →
      Rel (next result) (next' result)) →
      Rel (RenderM.withStore (fun store => store.load sources name base) >>= next)
        (RenderM.withStore (fun store => store.load sources name base) >>= next')
  /-- An error may be raised. -/
  raise : ∀ (origin : Origin) (error : Error) (span : Span),
    Rel (origin.noteError error span) (origin.noteError error span)

/-- The same relation may be asked for of strings, of steps and of whole parts. -/
theorem OutputLaw.renderFlowLaw {sources : Sources} {loads : Loads} {Rel : StepRel}
    (law : OutputLaw sources loads Rel) (calm : CalmLaw Rel) :
    RenderFlowLaw sources loads Rel Rel Rel :=
  { calm with
    quietFlow := calm
    quoted := law.apart (RenderM.quoted_runsApart _) (RenderM.quoted_runsApart _)
    gathered := law.gathered
    named := law.apart (RenderM.named_runsApart _) (RenderM.named_runsApart _)
    included := law.apart (RenderM.included_runsApart _ _) (RenderM.included_runsApart _ _)
    whole := id
    after := calm.bind
    loaded := law.loaded
    raise := law.raise
    raiseWrite := fun origin error span text =>
      calm.bind (law.raise origin error span) fun _ => calm.write text }

/-- The same relation may be asked for of strings, of steps and of whole parts. -/
theorem OutputLaw.renderLaw {sources : Sources} {loads : Loads} {Rel : StepRel}
    (law : OutputLaw sources loads Rel) (steps : StepLaw Rel) :
    RenderLaw sources loads Rel Rel Rel :=
  { steps, law.renderFlowLaw steps.toCalmLaw with quiet := steps }

/-- A part looks up a path. What is looked up in its strings and bodies is left out. -/
def Part.LooksUp : Part → Path → Prop
  | .reference path _ _, way => path = way
  | .element head list _ _ _, way =>
    (∃ kind, head = .test kind way) ∨ ∃ param ∈ list, param.argument = .path way
  | .inclusion _ context list _, way =>
    context = some way ∨ ∃ param ∈ list, param.argument = .path way
  | _, _ => False

/-- Looks up a path in a context. -/
def Renderer.lookUp (renderer : Renderer) (context : Context) (path : Path) :
    RenderM (Option Value) := do
  return context.get? (← renderer.scope) path

/-- Writes what has been looked up for a reference, if anything. -/
def Renderer.writeFound (renderer : Renderer) (origin : Origin) (filters : List Identifier) :
    Option Value → RenderM Unit
  | none => return
  | some value => do
    match renderer.filters.unknown? filters with
    | some filter => origin.noteFault (.unknownFilter filter.name) filter.span
    | none => pure ()
    RenderM.write (renderer.filters.apply (filters.map Identifier.name) value).display

/-- Rendering parts is related if rendering each of them is. -/
theorem CalmLaw.partByPart {Rel : StepRel} (law : CalmLaw Rel) {renderer renderer' : Renderer}
    {render render' : BodyRender} {origin origin' : Origin} {context : Context} {body : Body}
    (each : ∀ part ∈ body, Rel (renderer.renderPart render origin context part)
      (renderer'.renderPart render' origin' context part)) :
    Rel (renderer.renderParts render origin context body)
      (renderer'.renderParts render' origin' context body) := by
  induction body with
  | nil => exact law.pure _
  | cons part rest induction =>
    exact law.bind (each part List.mem_cons_self) fun _ =>
      induction fun other mem => each other (List.mem_cons_of_mem _ mem)

/-- Relations that are kept when the bodies and strings of a call are rendered in the course of a
helper. -/
structure CallLaw (Rel Inside : StepRel) : Prop extends StepLaw Inside where
  /-- A body may be rendered. -/
  body : ∀ {step step' : RenderM Unit}, Rel step step' → Inside step step'
  /-- A string may be rendered. -/
  quoted : ∀ {step step' : RenderM Unit}, Rel step step' →
    Inside (RenderM.quoted step) (RenderM.quoted step')

/-- A body that the helper of a call may render is one of the bodies of the tag. -/
theorem Call.Holds.nests {call : Call} {body : Body} (holds : call.Holds body) (head : Head)
    (list : List Param) (span : Span) :
    (Part.element head list call.main call.bodies span).Nests body :=
  holds.imp_right (Or.imp_right fun ⟨name, found⟩ => ⟨name, Dict.mem_of_get? found⟩)

/-- Running a helper that is always there is related if rendering its bodies and strings is. -/
theorem CallLaw.runHelper {Rel Inside : StepRel} (law : CallLaw Rel Inside) {renderer : Renderer}
    {loads : Loads} {render render' : BodyRender} {site : Site}
    (entered : ∀ inner, site.Enters renderer.maxDepth loads inner →
      Rel (render inner.origin inner.context inner.body)
        (render' inner.origin inner.context inner.body))
    {name : Identifier} {list : List Param} {main : Option Body} {bodies : Dict Body} {span : Span}
    {known : String} {helper : Helper}
    (mem : Part.element (.helper name) list main bodies span ∈ site.body)
    (builtin : (known, helper) ∈ Helper.builtins) :
    Inside
      (Renderer.runHelper { renderer.params render site.origin site.context list with
        main, bodies, filters := renderer.filters } helper)
      (Renderer.runHelper { renderer.params render' site.origin site.context list with
        main, bodies, filters := renderer.filters } helper) := by
  let call : Call := { renderer.params render site.origin site.context list with
    main, bodies, filters := renderer.filters }
  have strings (body : Body) (isString : Quoted list body) :
      Inside (call.resolve (.interpolated body))
        ((call.withRender (render' site.origin)).resolve (.interpolated body)) :=
    law.bind (law.quoted (entered _ (.string mem isString))) fun value => law.pure (some value)
  have nested (frames : Context) (body : Body) (plain : ∀ frame ∈ frames, frame.IsPlain)
      (holds : call.Holds body) :
      Inside (render site.origin (frames ++ site.context) body)
        (render' site.origin (frames ++ site.context) body) :=
    law.body (entered _ (.nested frames mem (holds.nests _ _ _) plain))
  exact law.toStepLaw.builtin_run strings nested builtin

namespace RenderFlowLaw

variable {renderer : Renderer} {loads : Loads} {Rel Quiet Whole : StepRel}
  (law : RenderFlowLaw renderer.sources loads Rel Quiet Whole) {render render' : BodyRender}
  {site : Site}
  (entered : ∀ inner, site.Enters renderer.maxDepth loads inner →
    Rel (render inner.origin inner.context inner.body)
      (render' inner.origin inner.context inner.body))
  (looks : ∀ part ∈ site.body, ∀ path, part.LooksUp path →
    Rel (renderer.lookUp site.context path) (renderer.lookUp site.context path) ∧
      Quiet (renderer.lookUp site.context path) (renderer.lookUp site.context path))

include law

/-- Rendering a reference is related to itself if looking up its path is. -/
theorem renderReference {origin : Origin} {context : Context} {path : Path}
    (look : Rel (renderer.lookUp context path) (renderer.lookUp context path))
    (filters : List Identifier) :
    Whole (renderer.renderReference origin context path filters)
      (renderer.renderReference origin context path filters) := by
  have parts : renderer.renderReference origin context path filters = (do
      let value ← renderer.lookUp context path
      renderer.writeFound origin filters value) := by
    simp only [Renderer.lookUp, bind_assoc, pure_bind]
    rfl
  rw [parts]
  refine law.after look fun value => ?_
  unfold Renderer.writeFound
  cases value with
  | none => exact law.whole (law.pure _)
  | some value =>
    cases renderer.filters.unknown? filters with
    | none => exact law.whole (law.write _)
    | some filter => exact law.raiseWrite _ _ _ _

/-- Noting what a helper has given up for is related to itself. -/
theorem noteOutcome (origin : Origin) (span : Span) (result : Except RenderFault Unit) :
    Whole (origin.noteOutcome span result) (origin.noteOutcome span result) := by
  cases result with
  | ok _ => exact law.whole (law.pure _)
  | error fault => exact law.raise _ _ _

/-- Rendering a body for the items of a list is related. -/
theorem renderItems {origin : Origin} {context : Context} {body : Body} (length : Nat)
    (related : ∀ frame : Frame, frame.IsPlain →
      Rel (render origin (frame :: context) body) (render' origin (frame :: context) body))
    (items : List Value) (index : Nat) :
    Rel (Renderer.renderItems render origin context length body index items)
      (Renderer.renderItems render' origin context length body index items) := by
  induction items generalizing index with
  | nil => exact law.pure _
  | cons item rest induction =>
    exact law.bind (related (.value item (some ⟨index, length⟩)) trivial) fun _ =>
      induction (index + 1)

/-- Rendering a body if there is one is related. -/
theorem renderOptional {origin : Origin} {context : Context} {body : Option Body}
    (related : ∀ found, body = some found →
      Rel (render origin context found) (render' origin context found)) :
    Rel (Renderer.renderOptional render origin context body)
      (Renderer.renderOptional render' origin context body) := by
  cases body with
  | none => exact law.pure _
  | some body => exact related body rfl

/-- Rendering the body of a section that its value asks for is related. -/
theorem renderChoice {origin : Origin} {context : Context} (kind : SectionKind)
    (value : Option Value) {main : Option Body} {bodies : Dict Body}
    (related : ∀ frames body, (∀ frame ∈ frames, frame.IsPlain) →
      (main = some body ∨ ∃ name, (name, body) ∈ bodies) →
      Rel (render origin (frames ++ context) body) (render' origin (frames ++ context) body)) :
    Rel (Renderer.renderChoice render origin context kind value main bodies)
      (Renderer.renderChoice render' origin context kind value main bodies) := by
  have ofMain : Rel (Renderer.renderOptional render origin context main)
      (Renderer.renderOptional render' origin context main) :=
    law.renderOptional fun body found => related [] body (by simp) (.inl found)
  have ofElse : Rel (Renderer.renderOptional render origin context (bodies.get? "else"))
      (Renderer.renderOptional render' origin context (bodies.get? "else")) :=
    law.renderOptional fun body found =>
      related [] body (by simp) (.inr ⟨"else", Dict.mem_of_get? found⟩)
  have ofItems (body : Body) (isMain : main = some body) (value : Value) :
      Rel (Renderer.renderFor render origin context body value)
        (Renderer.renderFor render' origin context body value) := by
    have behind (frame : Frame) (plain : frame.IsPlain) :
        Rel (render origin (frame :: context) body) (render' origin (frame :: context) body) :=
      related [frame] body (by simpa using plain) (.inl isMain)
    unfold Renderer.renderFor
    split
    · exact law.renderItems _ behind _ _
    · exact behind _ trivial
  unfold Renderer.renderChoice
  split
  · split
    · exact ofItems _ rfl _
    · exact law.pure _
  · exact ofMain
  · exact ofMain
  · exact ofElse

/-- Rendering a call of a helper is related if running the helper is. -/
theorem renderCall {origin : Origin} {context : Context} {name : Identifier} {list : List Param}
    {main : Option Body} {bodies : Dict Body} {span : Span}
    (runs : ∀ helper, renderer.helpers.get? name.name = some helper →
      Quiet
        (Renderer.runHelper { renderer.params render origin context list with
          main, bodies, filters := renderer.filters } helper)
        (Renderer.runHelper { renderer.params render' origin context list with
          main, bodies, filters := renderer.filters } helper)) :
    Whole (renderer.renderHelper render origin context name list main bodies span)
      (renderer.renderHelper render' origin context name list main bodies span) := by
  unfold Renderer.renderHelper
  cases found : renderer.helpers.get? name.name with
  | none => exact law.raise _ _ _
  | some helper =>
    exact law.after (law.gathered (runs helper found)) fun result =>
      law.noteOutcome origin span result

include entered

/-- Rendering a block is related. -/
theorem renderBlock {name : Identifier} {main : Option Body}
    (mem : Part.block name main ∈ site.body) :
    Rel (Renderer.renderBlock render site.origin site.context name main)
      (Renderer.renderBlock render' site.origin site.context name main) := by
  refine law.renderOptional fun body found => ?_
  cases override : site.context.block? name.name with
  | some inline =>
    rw [override] at found
    cases found
    exact entered _ (.override mem override)
  | none =>
    rw [override] at found
    exact entered _ (.nested [] mem found (by simp))

include looks

/-- Finding the value of a parameter of a part is related. -/
theorem partParam {part : Part} (mem : part ∈ site.body) {list : List Param}
    (quotes : ∀ body, Quoted list body → part.Quotes body)
    (paths : ∀ param ∈ list, ∀ path, param.argument = .path path → part.LooksUp path)
    (param : Param) (isParam : param ∈ list) :
    Quiet ((renderer.params render site.origin site.context list).resolve param.argument)
      ((renderer.params render' site.origin site.context list).resolve param.argument) := by
  cases argument : param.argument with
  | literal literal => exact law.quietFlow.pure _
  | path path => exact (looks part mem path (paths param isParam path argument)).2
  | interpolated body =>
    have isString : Quoted list body := ⟨param, isParam, argument⟩
    exact law.quietFlow.bind (law.quoted (entered _ (.string mem (quotes body isString))))
      fun value => law.quietFlow.pure (some value)

/-- Finding the values of the parameters of a part is related. -/
theorem partParams {part : Part} (mem : part ∈ site.body) {list : List Param}
    (quotes : ∀ body, Quoted list body → part.Quotes body)
    (paths : ∀ param ∈ list, ∀ path, param.argument = .path path → part.LooksUp path) :
    Rel (RenderM.gathered (renderer.params render site.origin site.context list).resolveAll)
      (RenderM.gathered
        (renderer.params render' site.origin site.context list).resolveAll) :=
  law.gathered (law.quietFlow.resolveAll (law.partParam entered looks mem quotes paths))

/-- Rendering a section is related. -/
theorem renderTest {kind : SectionKind} {key : Path} {list : List Param} {main : Option Body}
    {bodies : Dict Body} {span : Span}
    (mem : Part.element (.test kind key) list main bodies span ∈ site.body) :
    Rel (renderer.renderTest render site.origin site.context kind key list main bodies)
      (renderer.renderTest render' site.origin site.context kind key list main bodies) := by
  have choice (value : Option Value) (frames : Context)
      (plain : ∀ frame ∈ frames, frame.IsPlain) :
      Rel (Renderer.renderChoice render site.origin (frames ++ site.context) kind value main bodies)
        (Renderer.renderChoice render' site.origin (frames ++ site.context) kind value main
          bodies) := by
    refine law.renderChoice kind value fun more body plainMore nests => ?_
    have behind := entered _ (.nested (more ++ frames) mem (.inr nests) fun frame mem =>
      (List.mem_append.mp mem).elim (plainMore frame) (plain frame))
    rwa [List.append_assoc] at behind
  have parts (render : BodyRender) :
      renderer.renderTest render site.origin site.context kind key list main bodies = (do
        let value ← renderer.lookUp site.context key
        let inner ← renderer.withParams render site.origin site.context list
        Renderer.renderChoice render site.origin inner kind value main bodies) := by
    simp only [Renderer.lookUp, bind_assoc, pure_bind]
    rfl
  rw [parts, parts]
  refine law.bind (looks _ mem key (.inl ⟨kind, rfl⟩)).1 fun value => ?_
  unfold Renderer.withParams
  cases list.isEmpty with
  | true => exact choice _ [] (by simp)
  | false =>
    have params := law.partParams entered looks mem (fun _ => id)
      fun param isParam path isPath => .inr ⟨param, isParam, isPath⟩
    simp only [Bool.false_eq_true, if_false, bind_assoc, pure_bind]
    exact law.bind params fun values =>
      choice _ [.value (.map values) none] (by simp [Frame.IsPlain])

/-- Rendering an included template is related. -/
theorem renderIncluded {target : Target} {way : Option Path} {list : List Param} {span : Span}
    {name : String} {template : Template}
    (mem : Part.inclusion target way list span ∈ site.body)
    (shallow : site.origin.depth < renderer.maxDepth) (named : target.MayName name)
    (loaded : loads name site.origin.template.directory? template) :
    Rel
      (renderer.renderIncluded render site.origin site.context name template way list)
      (renderer.renderIncluded render' site.origin site.context name template way list) := by
  have params := law.partParams entered looks mem (fun _ => .inr)
    fun param isParam path isPath => .inr ⟨param, isParam, isPath⟩
  have inner (value : Option Value) (values : Dict Value) :
      Rel
        (RenderM.included name (render ⟨template, site.origin.depth + 1⟩
          (Renderer.innerContext site.context value values template) template.body))
        (RenderM.included name (render' ⟨template, site.origin.depth + 1⟩
          (Renderer.innerContext site.context value values template) template.body)) := by
    simp only [innerContext_eq]
    exact law.included
      (entered _ (.included _ mem shallow named loaded (includedFrames_plain _ values)))
  cases way with
  | none => exact law.bind params (inner none)
  | some path =>
    have parts (render : BodyRender) :
        renderer.renderIncluded render site.origin site.context name template (some path) list =
          (do
            let values ← RenderM.gathered
              (renderer.params render site.origin site.context list).resolveAll
            let value ← renderer.lookUp site.context path
            RenderM.included name (render ⟨template, site.origin.depth + 1⟩
              (Renderer.innerContext site.context value values template) template.body)) := by
      simp only [Renderer.lookUp, bind_assoc, pure_bind]
      rfl
    rw [parts, parts]
    exact law.bind params fun values =>
      law.bind (looks _ mem path (.inl rfl)).1 fun value => inner value values

/-- Rendering an inclusion is related. -/
theorem renderInclusion {target : Target} {way : Option Path} {list : List Param} {span : Span}
    (mem : Part.inclusion target way list span ∈ site.body) :
    Whole (renderer.renderInclusion render site.origin site.context target way list span)
      (renderer.renderInclusion render' site.origin site.context target way list span) := by
  unfold Renderer.renderInclusion
  by_cases deep : renderer.maxDepth ≤ site.origin.depth
  · simp only [if_pos deep]
    exact law.raise _ _ _
  · simp only [if_neg deep]
    have ofName (name : String) (named : target.MayName name) :
        Whole
          (RenderM.withStore (fun store =>
              store.load renderer.sources name site.origin.template.directory?) >>=
            renderer.renderFound render site.origin site.context name way list span)
          (RenderM.withStore (fun store =>
              store.load renderer.sources name site.origin.template.directory?) >>=
            renderer.renderFound render' site.origin site.context name way list span) := by
      refine law.loaded fun result loads => ?_
      unfold Renderer.renderFound
      split
      · exact law.raise _ _ _
      · exact law.whole (law.pure _)
      · rename_i template
        exact law.whole
          (law.renderIncluded entered looks mem (Nat.lt_of_not_le deep) named
            (loads template rfl))
    cases target with
    | static name => exact ofName name rfl
    | dynamic body =>
      have name := law.named (entered _ (.string mem (.inl rfl)))
      exact law.after name fun name => ofName name trivial

/-- Rendering a part is related if it is no call of a helper, or if rendering the call is. -/
theorem renderPart {part : Part} (mem : part ∈ site.body)
    (calls : ∀ name list main bodies span, part = .element (.helper name) list main bodies span →
      Whole (renderer.renderHelper render site.origin site.context name list main bodies span)
        (renderer.renderHelper render' site.origin site.context name list main bodies span)) :
    Whole (renderer.renderPart render site.origin site.context part)
      (renderer.renderPart render' site.origin site.context part) := by
  match part with
  | .text content => exact law.whole (law.write content)
  | .comment _ => exact law.whole (law.pure _)
  | .reference path filters _ => exact law.renderReference (looks _ mem path rfl).1 filters
  | .element (.test kind key) list main bodies _ =>
    exact law.whole (law.renderTest entered looks mem)
  | .element (.helper name) list main bodies span => exact calls name list main bodies span rfl
  | .block name main => exact law.whole (law.renderBlock entered mem)
  | .inclusion target way list span => exact law.renderInclusion entered looks mem

end RenderFlowLaw

namespace RenderLaw

variable {renderer : Renderer} {loads : Loads} {Rel Quiet Whole : StepRel}
  (law : RenderLaw renderer.sources loads Rel Quiet Whole) {render render' : BodyRender}
  {site : Site}
  (entered : ∀ inner, site.Enters renderer.maxDepth loads inner →
    Rel (render inner.origin inner.context inner.body)
      (render' inner.origin inner.context inner.body))

include law

/-- Looking at the values around all frames is related to itself. -/
theorem scope : Rel renderer.scope renderer.scope :=
  law.read fun root _ => (⟨root, renderer.globals⟩ : Scope)

/-- Looking up a path is related to itself. -/
theorem looks (part : Part) (_ : part ∈ site.body) (path : Path) (_ : part.LooksUp path) :
    Rel (renderer.lookUp site.context path) (renderer.lookUp site.context path) ∧
      Quiet (renderer.lookUp site.context path) (renderer.lookUp site.context path) :=
  ⟨law.read fun root _ => site.context.get? ⟨root, renderer.globals⟩ path,
    law.quiet.read fun root _ => site.context.get? ⟨root, renderer.globals⟩ path⟩

include entered

/-- Rendering a call of a helper that is always there is related if only values of parameters are
found in it, as far as can be told. -/
theorem renderHelper (callLaw : CallLaw Rel Quiet) {name : Identifier} {list : List Param}
    {main : Option Body} {bodies : Dict Body} {span : Span}
    (mem : Part.element (.helper name) list main bodies span ∈ site.body)
    (builtin : ∀ helper, renderer.helpers.get? name.name = some helper →
      ∃ known, (known, helper) ∈ Helper.builtins) :
    Whole (renderer.renderHelper render site.origin site.context name list main bodies span)
      (renderer.renderHelper render' site.origin site.context name list main bodies span) := by
  refine law.renderCall fun helper found => ?_
  obtain ⟨known, builtin⟩ := builtin helper found
  exact callLaw.runHelper entered mem builtin

end RenderLaw

/-- Rendering a site is related if rendering all sites that it enters is, as long as only helpers
that are always there are called, and if one relation is enough. -/
theorem RenderLaw.renderParts {renderer : Renderer} {loads : Loads} {Rel : StepRel}
    (law : RenderLaw renderer.sources loads Rel Rel Rel) {render render' : BodyRender} {site : Site}
    (entered : ∀ inner, site.Enters renderer.maxDepth loads inner →
      Rel (render inner.origin inner.context inner.body)
        (render' inner.origin inner.context inner.body))
    (builtin : site.CallsBuiltins renderer.helpers) :
    Rel (renderer.renderParts render site.origin site.context site.body)
      (renderer.renderParts render' site.origin site.context site.body) := by
  have callLaw : CallLaw Rel Rel := { law.quiet with body := id, quoted := law.quoted }
  refine law.partByPart fun part mem =>
    law.renderPart entered law.looks mem fun name list main bodies span same => ?_
  subst same
  exact law.renderHelper entered callLaw mem (builtin _ mem name.name rfl)

end Dust
