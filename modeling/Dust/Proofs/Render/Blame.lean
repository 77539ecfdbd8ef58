import Dust.Proofs.Render.EvaluateLaw
import Dust.Proofs.Render.Ownership
import Dust.Proofs.Render.Run

/-!
# Where errors point

An error of a render tells a source and a span. The span is that of a tag that fails: there the
source in which the tag is written shows the name of a filter or helper, the call of a helper or the
partial. The source is that of the template that is being rendered. So it is the one in which the
tag is written, unless the tag is in an inline partial that is rendered in place of a block of
another template.
-/

namespace Dust

/-- A part of a template fails at a span of its source. -/
inductive Part.FailsAt (renderer : Renderer) (source : List Char) : Part → Fault → Span → Prop where
  /-- The name of a filter that is not known. -/
  | unknownFilter {path : Path} {filters : List Identifier} {span : Span} {filter : Identifier}
    (mem : filter ∈ filters) (unknown : renderer.filters.known.get? filter.name = none)
    (shown : filter.span.Shows source filter.name.toList) :
    FailsAt renderer source (.reference path filters span)
      (.render (.unknownFilter filter.name)) filter.span
  /-- The name of a helper that is not known. -/
  | unknownHelper {name : Identifier} {params : List Param} {main : Option Body}
    {bodies : Dict Body} {span : Span} (unknown : renderer.helpers.get? name.name = none)
    (shown : name.span.Shows source name.name.toList) :
    FailsAt renderer source (.element (.helper name) params main bodies span)
      (.render (.unknownHelper name.name)) name.span
  /-- The call of a helper that gives up. -/
  | helper {name : Identifier} {params : List Param} {main : Option Body} {bodies : Dict Body}
    {span : Span} {helper : Helper} (fault : RenderFault)
    (known : renderer.helpers.get? name.name = some helper)
    (shown : (Head.helper name).ShowsTag source span) :
    FailsAt renderer source (.element (.helper name) params main bodies span) (.render fault) span
  /-- The tag of a template that is included too deep. -/
  | tooDeep {target : Target} {way : Option Path} {params : List Param} {span : Span}
    (shown : (Part.inclusion target way params span).ShowsTag source) :
    FailsAt renderer source (.inclusion target way params span)
      (.render (.includedTooDeep renderer.maxDepth)) span
  /-- The tag of a template whose file cannot be read. -/
  | unreadable {target : Target} {way : Option Path} {params : List Param} {span : Span}
    (path : String) (reason : ReadFault)
    (shown : (Part.inclusion target way params span).ShowsTag source) :
    FailsAt renderer source (.inclusion target way params span) (.unreadable path reason) span

/-- An error is that of a source that is malformed. It tells where the compiler finds the fault. -/
def Error.IsMalformed (whitespace : Whitespace) (error : Error) : Prop :=
  ∃ source located, Template.compile whitespace source = .error located ∧
    error.fault = .malformed located.fault ∧ error.location = some ⟨source, located.span⟩

namespace Renderer

/-- An error points at a tag that fails: at a span that shows what fails in the source in which the
tag is written. The source that is told is that of the template that is rendered. It is the same
unless the tag is in place of a block of another template. -/
def PointsAtTag (renderer : Renderer) (loads : Loads) (start : Template) (error : Error) : Prop :=
  ∃ (site : Site) (owner : Template) (part : Part) (span : Span),
    start.site.Reaches renderer.maxDepth loads site ∧ part ∈ site.body ∧
      site.IsWrittenIn renderer.maxDepth loads start owner ∧
      part.FailsAt renderer owner.source.toList error.fault span ∧
      error.location = some ⟨site.origin.template.source, span⟩

/-- The errors that a render reports: those of malformed templates and those that point at tags. -/
def Reports (renderer : Renderer) (loads : Loads) (start : Template) (error : Error) : Prop :=
  error.IsMalformed renderer.sources.whitespace ∨ renderer.PointsAtTag loads start error

/-- An error of a render is one also with the name of a template. -/
theorem Reports.inTemplate {renderer : Renderer} {loads : Loads} {start : Template}
    {error : Error} (reports : renderer.Reports loads start error) (name : String) :
    renderer.Reports loads start (error.inTemplate name) :=
  reports

end Renderer

/-- All errors in a slot have a property. -/
def Confined (allowed : Error → Prop) (slot : Option Error) : Prop :=
  ∀ error, slot = some error → allowed error

namespace Confined

variable {allowed : Error → Prop}

/-- There is no error in an empty slot. -/
theorem none : Confined allowed none :=
  fun _ same => by cases same

/-- The error of one of two slots has the property if those of both have. -/
theorem or {first second : Option Error} (one : Confined allowed first)
    (other : Confined allowed second) : Confined allowed (first.or second) := by
  cases first with
  | none => exact other
  | some error => exact one

end Confined

/-- What is kept in the course of a render: the errors have a property, and the store has loaded
compiled templates only. -/
structure RenderState.Keeps (sources : Sources) (store : Store) (allowed : Error → Prop)
    (state : RenderState) : Prop where
  /-- The error of the output has the property. -/
  output : Confined allowed state.output.error
  /-- The error that is set aside has the property. -/
  pending : Confined allowed state.pending
  /-- Templates have been loaded. -/
  evolves : store.Evolves sources state.store

/-- A step that ends keeps what is kept in the course of a render. The second step is not looked at.
-/
def Keeping (sources : Sources) (store : Store) (allowed : Error → Prop) : StepRel :=
  fun step _ => ∀ state value later, step.runFrom state = (.ok value, later) →
    state.Keeps sources store allowed → later.Keeps sources store allowed

namespace Keeping

variable {sources : Sources} {store : Store} {allowed : Error → Prop} {α β : Type}

/-- A step that changes neither the errors nor the store keeps everything. -/
theorem untouched {step step' : RenderM α}
    (same : ∀ state value later, step.runFrom state = (.ok value, later) →
      later.output.error = state.output.error ∧ later.pending = state.pending ∧
        later.store = state.store) : Keeping sources store allowed step step' := by
  intro state value later ends keeps
  obtain ⟨output, pending, templates⟩ := same state value later ends
  exact ⟨output ▸ keeps.output, pending ▸ keeps.pending, templates ▸ keeps.evolves⟩

/-- Steps in a row keep what each of them keeps. -/
theorem bind {first first' : RenderM α} {next next' : α → RenderM β}
    (one : Keeping sources store allowed first first')
    (other : ∀ value, Keeping sources store allowed (next value) (next' value)) :
    Keeping sources store allowed (first >>= next) (first' >>= next') := by
  intro state value later ends keeps
  obtain ⟨between, middle, firstEnds, nextEnds⟩ := RenderM.runFrom_bind_ok ends
  exact other between middle value later nextEnds (one state between middle firstEnds keeps)

/-- An error that has the property may be noted. -/
theorem noteError {error : Error} (isAllowed : allowed error) {step' : RenderM Unit} :
    Keeping sources store allowed (RenderM.noteError (some error)) step' := by
  intro state value later ends keeps
  rw [RenderM.runFrom_noteError] at ends
  cases ends
  exact ⟨keeps.output.or fun _ same => Option.some.inj same ▸ isAllowed, keeps.pending,
    keeps.evolves⟩

/-- A body with an output of its own keeps what the body keeps, if its errors are passed on. -/
theorem apart {wrapped wrapped' : RenderM α} {step step' : RenderM Unit} {value : Output → α}
    {shown : Output → Output} {aside : Output → Option Error}
    (runs : RenderM.RunsApart wrapped step value shown aside)
    (passed : ∀ own : Output, Confined allowed own.error →
      Confined allowed (shown own).error ∧ Confined allowed (aside own))
    (keeping : Keeping sources store allowed step step') :
    Keeping sources store allowed wrapped wrapped' := by
  intro state result later ends keeps
  obtain ⟨own, run, rfl, rfl⟩ := runs.ok ends
  have kept := keeping _ _ own run ⟨.none, keeps.pending, keeps.evolves⟩
  obtain ⟨written, set⟩ := passed own.output kept.output
  exact ⟨keeps.output.or written, kept.pending.or set, kept.evolves⟩

/-- Gathering errors keeps what the step keeps. -/
theorem gathered {step step' : RenderM α} (keeping : Keeping sources store allowed step step') :
    Keeping sources store allowed (RenderM.gathered step) (RenderM.gathered step') := by
  intro state value later ends keeps
  obtain ⟨inner, run, rfl⟩ := RenderM.runFrom_gathered_ok ends
  have kept := keeping _ _ inner run ⟨keeps.output, .none, keeps.evolves⟩
  exact ⟨kept.output.or kept.pending, keeps.pending, kept.evolves⟩

/-- The elementary steps change neither the errors nor the store. -/
theorem stepLaw : StepLaw (Keeping sources store allowed) where
  pure _ := untouched fun _ _ _ ends => by cases ends; exact ⟨rfl, rfl, rfl⟩
  bind := bind
  overflow := untouched fun _ _ _ ends => by cases ends
  read _ := untouched fun _ _ _ ends => by cases ends; exact ⟨rfl, rfl, rfl⟩
  change _ := untouched fun _ _ _ ends => by cases ends; exact ⟨rfl, rfl, rfl⟩
  write text := untouched fun state _ _ ends => by
    rw [RenderM.runFrom_write] at ends
    cases ends
    simp

/-- The steps of the evaluator keep what is kept as far as they raise no errors of their own. -/
theorem renderLaw (inTemplate : ∀ error name, allowed error → allowed (error.inTemplate name)) :
    RenderLaw sources (store.Loadable sources) (Keeping sources store allowed)
      (Keeping sources store allowed) (fun _ _ => True) where
  toStepLaw := stepLaw
  quiet := stepLaw
  quoted := apart (RenderM.quoted_runsApart _) fun _ own => ⟨.none, own⟩
  gathered := gathered
  named := apart (RenderM.named_runsApart _) fun _ own => ⟨own, .none⟩
  included := by
    intro name step step' keeping
    refine apart (RenderM.included_runsApart name step) (fun inner own => ⟨?_, .none⟩) keeping
    intro error same
    obtain ⟨raised, isRaised, rfl⟩ := Option.map_eq_some_iff.mp same
    exact inTemplate raised name (own raised isRaised)
  whole _ := trivial
  after _ _ := trivial
  loaded _ := trivial
  raise _ _ _ := trivial
  raiseWrite _ _ _ _ := trivial

/-- Loading a template keeps what is kept, and what is loaded may be, or it is an error in finding a
template. -/
theorem loaded (compiled : store.IsCompiled) {name : String} {base : Option FilePath}
    {next : Except Error (Option Template) → RenderM Unit} {step' : RenderM Unit}
    (after : ∀ result,
      (∀ template, result = .ok (some template) → store.Loadable sources name base template) →
      (∀ error, result = .error error → Store.LoadFails sources.whitespace error) →
      Keeping sources store allowed (next result) (next result)) :
    Keeping sources store allowed
      (RenderM.withStore (fun store => store.load sources name base) >>= next) step' := by
  intro state value later ends keeps
  rw [RenderM.runFrom_bind, RenderM.runFrom_withStore] at ends
  have loads (template : Template)
      (found : (state.store.load sources name base).1 = .ok (some template)) :
      store.Loadable sources name base template := ⟨state.store, keeps.evolves, found⟩
  have evolves : store.Evolves sources (state.store.load sources name base).2 :=
    keeps.evolves.tail ⟨name, base, rfl⟩
  have isCompiled := keeps.evolves.isCompiled compiled
  have fails := (@Store.load_findsCompiled sources _ isCompiled name base).error
  generalize state.store.load sources name base = found at *
  exact after found.1 loads fails _ value later ends ⟨keeps.output, keeps.pending, evolves⟩

end Keeping

/-- The errors of a render are those that are reported, and its store has loaded compiled templates
only. -/
abbrev Renderer.Reporting (renderer : Renderer) (store : Store) (start : Template) : StepRel :=
  Keeping renderer.sources store (renderer.Reports (store.Loadable renderer.sources) start)

namespace Site

variable {renderer : Renderer} {store : Store} {start : Template} {site : Site}

/-- A step may note an error at the span of a part if the part fails there. -/
theorem reporting_noteError (compiled : store.IsCompiled) (startCompiled : start.IsCompiled)
    (reached : start.site.Reaches renderer.maxDepth (store.Loadable renderer.sources) site)
    {part : Part} (mem : part ∈ site.body) {error : Error} {span : Span}
    (noPlace : error.location = none)
    (fails : ∀ source, part.Meets (writtenIn source) →
      part.FailsAt renderer source error.fault span) :
    renderer.Reporting store start (site.origin.noteError error span)
      (site.origin.noteError error span) := by
  obtain ⟨⟨owner, written⟩, -⟩ := Reaches.exists_isWrittenIn reached
  have meets : Part.AllMeet (writtenIn owner.source.toList) site.body :=
    written.holds.meets (written.known.isCompiled compiled startCompiled).meets
  refine Keeping.noteError (.inr ⟨site, owner, part, span, reached, mem, written, ?_, ?_⟩)
  · exact fails _ (Part.allMeet_iff.mp meets part mem)
  · rw [Error.withLocation, noPlace]
    rfl

end Site

namespace Renderer

variable {renderer : Renderer} {store : Store} {start : Template} {render : BodyRender}
  {site : Site} (compiled : store.IsCompiled) (startCompiled : start.IsCompiled)
  (reached : start.site.Reaches renderer.maxDepth (store.Loadable renderer.sources) site)

section Parts

include compiled startCompiled reached

/-- A reference raises errors at the names of filters that are not known. -/
theorem renderReference_reporting {path : Path} {filters : List Identifier} {span : Span}
    (mem : Part.reference path filters span ∈ site.body) :
    renderer.Reporting store start
      (renderer.renderReference site.origin site.context path filters)
      (renderer.renderReference site.origin site.context path filters) := by
  have law : StepLaw (renderer.Reporting store start) := Keeping.stepLaw
  unfold renderReference
  refine law.bind (law.read fun root _ => (⟨root, renderer.globals⟩ : Scope)) fun scope => ?_
  split
  · exact law.pure _
  · cases found : renderer.filters.unknown? filters with
    | none => exact law.write _
    | some filter =>
      have listed := List.mem_of_find?_eq_some found
      have unknown : renderer.filters.known.get? filter.name = none := by
        have passes := List.find?_some found
        simp only [Dict.has, Bool.and_eq_true, Bool.not_eq_true', Option.isSome_eq_false_iff,
          Option.isNone_iff_eq_none] at passes
        exact passes.2
      refine law.bind (Site.reporting_noteError compiled startCompiled reached mem rfl ?_)
        fun _ => law.write _
      intro source meets
      obtain ⟨-, -, names, -⟩ := meets
      exact .unknownFilter listed unknown (names filter listed)

variable (entered : ∀ inner, site.Enters renderer.maxDepth (store.Loadable renderer.sources) inner →
  renderer.Reporting store start (render inner.origin inner.context inner.body)
    (render inner.origin inner.context inner.body))

include entered

/-- The call of a helper raises errors at its name or at the whole tag. -/
theorem renderHelper_reporting {name : Identifier} {list : List Param} {main : Option Body}
    {bodies : Dict Body} {span : Span}
    (mem : Part.element (.helper name) list main bodies span ∈ site.body)
    (builtin : ∀ helper, renderer.helpers.get? name.name = some helper →
      ∃ known, (known, helper) ∈ Helper.builtins) :
    renderer.Reporting store start
      (renderer.renderHelper render site.origin site.context name list main bodies span)
      (renderer.renderHelper render site.origin site.context name list main bodies span) := by
  have law : StepLaw (renderer.Reporting store start) := Keeping.stepLaw
  have callLaw : CallLaw (renderer.Reporting store start) (renderer.Reporting store start) :=
    { law with
      body := id
      quoted := Keeping.apart (RenderM.quoted_runsApart _) fun _ own => ⟨.none, own⟩ }
  unfold renderHelper
  cases found : renderer.helpers.get? name.name with
  | none =>
    refine Site.reporting_noteError compiled startCompiled reached mem rfl fun source meets => ?_
    obtain ⟨-, shown, -⟩ := meets
    exact .unknownHelper found shown
  | some helper =>
    obtain ⟨known, isBuiltin⟩ := builtin helper found
    refine law.bind (Keeping.gathered (callLaw.runHelper entered mem isBuiltin)) fun result => ?_
    cases result with
    | ok _ => exact law.pure _
    | error fault =>
      refine Site.reporting_noteError compiled startCompiled reached mem rfl fun source meets => ?_
      obtain ⟨shown, -⟩ := meets
      exact .helper fault found shown

/-- A partial raises errors at its tag, and errors of malformed templates. -/
theorem renderInclusion_reporting {target : Target} {way : Option Path} {list : List Param}
    {span : Span} (mem : Part.inclusion target way list span ∈ site.body) :
    renderer.Reporting store start
      (renderer.renderInclusion render site.origin site.context target way list span)
      (renderer.renderInclusion render site.origin site.context target way list span) := by
  have law := @Keeping.renderLaw renderer.sources store
    (renderer.Reports (store.Loadable renderer.sources) start) fun _ name reports =>
      reports.inTemplate name
  unfold renderInclusion
  by_cases deep : renderer.maxDepth ≤ site.origin.depth
  · simp only [if_pos deep]
    refine Site.reporting_noteError compiled startCompiled reached mem rfl fun source meets => ?_
    obtain ⟨shown, -⟩ := meets
    exact .tooDeep shown
  · simp only [if_neg deep]
    have ofName (name : String) (named : target.MayName name) :
        renderer.Reporting store start
          (RenderM.withStore (fun store =>
              store.load renderer.sources name site.origin.template.directory?) >>=
            renderer.renderFound render site.origin site.context name way list span)
          (RenderM.withStore (fun store =>
              store.load renderer.sources name site.origin.template.directory?) >>=
            renderer.renderFound render site.origin site.context name way list span) := by
      refine Keeping.loaded compiled fun result loads fails => ?_
      unfold renderFound
      split
      · rename_i error
        cases fails error rfl with
        | malformed malformed =>
          exact Keeping.noteError (.inl ⟨_, _, malformed, rfl, rfl⟩)
        | unreadable path reason =>
          refine Site.reporting_noteError compiled startCompiled reached mem rfl
            fun source meets => ?_
          obtain ⟨shown, -⟩ := meets
          exact .unreadable path reason shown
      · exact law.pure _
      · rename_i template
        exact law.renderIncluded entered law.looks mem (Nat.lt_of_not_le deep) named
          (loads template rfl)
    cases target with
    | static name => exact ofName name rfl
    | dynamic body =>
      exact law.bind (law.named (entered _ (.string mem (.inl rfl)))) fun name =>
        ofName name trivial

/-- Every part raises errors where it fails. -/
theorem renderPart_reporting {part : Part} (mem : part ∈ site.body)
    (builtin : site.CallsBuiltins renderer.helpers) :
    renderer.Reporting store start (renderer.renderPart render site.origin site.context part)
      (renderer.renderPart render site.origin site.context part) := by
  have law := @Keeping.renderLaw renderer.sources store
    (renderer.Reports (store.Loadable renderer.sources) start) fun _ name reports =>
      reports.inTemplate name
  match part with
  | .text content => exact law.write content
  | .comment _ => exact law.pure _
  | .reference path filters _ =>
    exact renderReference_reporting compiled startCompiled reached mem
  | .element (.test kind key) list main bodies _ => exact law.renderTest entered law.looks mem
  | .element (.helper name) list main bodies span =>
    exact renderHelper_reporting compiled startCompiled reached entered mem
      (builtin _ mem name.name rfl)
  | .block name main => exact law.renderBlock entered mem
  | .inclusion target way list span =>
    exact renderInclusion_reporting compiled startCompiled reached entered mem

/-- A body raises errors where its parts fail. -/
theorem renderParts_reporting (builtin : site.CallsBuiltins renderer.helpers) :
    renderer.Reporting store start
      (renderer.renderParts render site.origin site.context site.body)
      (renderer.renderParts render site.origin site.context site.body) := by
  have law : StepLaw (renderer.Reporting store start) := Keeping.stepLaw
  exact law.partByPart fun part mem =>
    renderPart_reporting compiled startCompiled reached entered mem builtin

end Parts

include compiled startCompiled in
/-- Whatever a site renders raises errors where parts fail. -/
theorem renderBody_reporting (helpers : renderer.helpers = Helper.builtins) (bound : Nat)
    {site : Site}
    (reached : start.site.Reaches renderer.maxDepth (store.Loadable renderer.sources) site) :
    renderer.Reporting store start
      (renderer.renderBody bound site.origin site.context site.body)
      (renderer.renderBody bound site.origin site.context site.body) := by
  induction bound generalizing site with
  | zero => exact fun _ _ _ ends => by cases ends
  | succ bound induction =>
    exact renderParts_reporting compiled startCompiled reached
      (fun inner enters => induction (reached.tail enters))
      (site.callsBuiltins_of_helpers helpers)

end Renderer

/-- An engine that knows one template. -/
def Template.knownAs (template : Template) (name : String) : Engine where
  sources := { files := ⟨.directory [], []⟩ }
  store := { templates := [(name, template)] }

/-- What comes of rendering the template of one source where that of another one is the layout. -/
def renderIn? (layout page : String) : Option (Template × Template × Output) := do
  let layout ← (Template.compile .preserve layout).toOption
  let page ← (Template.compile .preserve page).toOption
  let run := (EngineM.renderOutput page { data := .map [("x", .bool true)] }).run
    (layout.knownAs "layout")
  return (layout, page, ← run.1.toOption)

/-- Both templates are compiled, and the one is rendered by an engine that knows the other one. -/
theorem renderIn?_eq_some {layoutSource pageSource : String} {layout page : Template}
    {output : Output} (rendered : renderIn? layoutSource pageSource = some (layout, page, output)) :
    (layout.knownAs "layout").store.IsCompiled ∧ page.IsCompiled ∧
      ((EngineM.renderOutput page { data := .map [("x", .bool true)] }).run
        (layout.knownAs "layout")).1 = .ok output := by
  obtain ⟨first, layoutRead, rendered⟩ := Option.bind_eq_some_iff.mp rendered
  obtain ⟨second, pageRead, rendered⟩ := Option.bind_eq_some_iff.mp rendered
  obtain ⟨found, run, same⟩ := Option.bind_eq_some_iff.mp rendered
  cases same
  have ofOption {ε α : Type} {result : Except ε α} {value : α}
      (isSome : result.toOption = some value) : result = .ok value := by
    cases result with
    | error _ => cases isSome
    | ok _ => exact congrArg Except.ok (Option.some.inj isSome)
  refine ⟨⟨List.pairwise_singleton .., fun entry mem => ?_⟩, .of_compile (ofOption pageRead),
    ofOption run⟩
  rw [List.mem_singleton.mp mem]
  exact .of_compile (ofOption layoutRead)

end Dust
