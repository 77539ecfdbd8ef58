import Dust.Proofs.Render.EvaluateLaw
import Dust.Proofs.Render.Run

/-!
# Renders stay among the sites that are reached

Rendering a site depends on nothing but how the sites are rendered that can be reached from it. So
the evaluator can be compared with any other way to render bodies that does the same step at these
sites, whatever it does elsewhere. Helpers may do much in a render, but they are trusted to render
nothing except the strings and bodies of their call, and to leave the templates alone.
-/

namespace Dust

/-- Two steps do the same from every store that comes from a store by loading templates, and leave
such a store. -/
def RunsAlike (sources : Sources) (store : Store) : StepRel := fun step step' =>
  ∀ state, store.Evolves sources state.store →
    step.runFrom state = step'.runFrom state ∧
    store.Evolves sources (step.runFrom state).2.store

namespace RunsAlike

variable {sources : Sources} {store : Store} {α β : Type}

/-- A step that leaves the store does the same as itself. -/
theorem self {step : RenderM α}
    (kept : ∀ state, (step.runFrom state).2.store = state.store) :
    RunsAlike sources store step step :=
  fun state evolves => ⟨rfl, (kept state).symm ▸ evolves⟩

/-- Steps that do the same in a row do the same. -/
theorem bind {first first' : RenderM α} {next next' : α → RenderM β}
    (alike : RunsAlike sources store first first')
    (after : ∀ value, RunsAlike sources store (next value) (next' value)) :
    RunsAlike sources store (first >>= next) (first' >>= next') := by
  intro state evolves
  obtain ⟨equal, kept⟩ := alike state evolves
  rw [RenderM.runFrom_bind, RenderM.runFrom_bind, ← equal]
  rcases run : first.runFrom state with ⟨result, later⟩
  rw [run] at kept
  cases result with
  | error halt => exact ⟨rfl, kept⟩
  | ok value => exact after value later kept

/-- Two bodies with outputs of their own do the same. -/
theorem apart {wrapped wrapped' : RenderM α} {step step' : RenderM Unit} {value : Output → α}
    {shown : Output → Output} {aside : Output → Option Error}
    (runs : RenderM.RunsApart wrapped step value shown aside)
    (runs' : RenderM.RunsApart wrapped' step' value shown aside)
    (alike : RunsAlike sources store step step') : RunsAlike sources store wrapped wrapped' := by
  intro state evolves
  obtain ⟨equal, kept⟩ := alike { state with output := {} } evolves
  rw [runs, runs', ← equal]
  rcases run : step.runFrom { state with output := {} } with ⟨result, later⟩
  rw [run] at kept
  cases result <;> exact ⟨rfl, kept⟩

/-- Steps do the same while errors are gathered. -/
theorem gathered {step step' : RenderM α} (alike : RunsAlike sources store step step') :
    RunsAlike sources store (RenderM.gathered step) (RenderM.gathered step') := by
  intro state evolves
  obtain ⟨equal, kept⟩ := alike { state with pending := none } evolves
  rw [RenderM.runFrom_gathered, RenderM.runFrom_gathered, ← equal]
  rcases run : step.runFrom { state with pending := none } with ⟨result, later⟩
  rw [run] at kept
  cases result <;> exact ⟨rfl, kept⟩

/-- Doing the same is kept by the elementary steps. -/
theorem stepLaw (sources : Sources) (store : Store) : StepLaw (RunsAlike sources store) where
  pure _ := self fun _ => rfl
  bind := .bind
  overflow := self fun _ => rfl
  read _ := self fun _ => rfl
  change _ := self fun _ => rfl
  write _ := self fun _ => rfl

/-- Doing the same is kept by the steps of the evaluator. -/
theorem renderLaw (sources : Sources) (store : Store) :
    RenderLaw sources (store.Loadable sources) (RunsAlike sources store) (RunsAlike sources store)
      (RunsAlike sources store) :=
  have output : OutputLaw sources (store.Loadable sources) (RunsAlike sources store) :=
    { apart := .apart
      gathered := .gathered
      loaded := by
        intro name base next next' after state evolves
        rw [RenderM.runFrom_bind, RenderM.runFrom_bind, RenderM.runFrom_withStore]
        exact after _ (fun template loaded => ⟨state.store, evolves, loaded⟩)
          { state with store := (state.store.load sources name base).2 }
          (evolves.tail ⟨name, base, rfl⟩)
      raise := fun _ _ _ => self fun _ => rfl }
  output.renderLaw (stepLaw sources store)

end RunsAlike

/-- A helper renders nothing but the strings and bodies of its call, the bodies behind plain frames,
and leaves the templates alone: it does the same when these are rendered in another way that does
the same. -/
def Helper.IsConfined (helper : Helper) : Prop :=
  ∀ (sources : Sources) (store : Store) (call : Call) (render : Context → Body → RenderM Unit),
    (∀ body, Quoted call.list body →
      RunsAlike sources store (call.render call.context body) (render call.context body)) →
    (∀ frames body, (∀ frame ∈ frames, frame.IsPlain) → call.Holds body →
      RunsAlike sources store (call.render (frames ++ call.context) body)
        (render (frames ++ call.context) body)) →
    RunsAlike sources store (Renderer.runHelper call helper)
      (Renderer.runHelper (call.withRender render) helper)

/-- The helpers that are always there are confined. -/
theorem Helper.isConfined_of_builtin {name : String} {helper : Helper}
    (builtin : (name, helper) ∈ Helper.builtins) : helper.IsConfined := by
  intro sources store call render strings bodies
  have law := RunsAlike.stepLaw sources store
  refine law.builtin_run (fun body isString => ?_) bodies builtin
  have value : RunsAlike sources store (RenderM.quoted (call.render call.context body))
      (RenderM.quoted (render call.context body)) :=
    (RunsAlike.renderLaw sources store).quoted (strings body isString)
  exact law.bind value fun value => law.pure (some value)

/-- All helpers of a dictionary are confined. -/
def Helper.AllConfined (helpers : Dict Helper) : Prop :=
  ∀ name helper, helpers.get? name = some helper → helper.IsConfined

/-- The helpers that are always there are all confined. -/
theorem Helper.allConfined_builtins : Helper.AllConfined Helper.builtins :=
  fun _ _ found => Helper.isConfined_of_builtin (Dict.mem_of_get? found)

namespace Renderer

variable {renderer : Renderer} {store : Store}

/-- A call of a confined helper does the same if rendering all sites that are entered does. -/
theorem renderHelper_alike (confined : Helper.AllConfined renderer.helpers)
    {render render' : BodyRender} {site : Site}
    (entered : ∀ inner, site.Enters renderer.maxDepth (store.Loadable renderer.sources) inner →
      RunsAlike renderer.sources store (render inner.origin inner.context inner.body)
        (render' inner.origin inner.context inner.body))
    {name : Identifier} {list : List Param} {main : Option Body} {bodies : Dict Body} {span : Span}
    (mem : Part.element (.helper name) list main bodies span ∈ site.body) :
    RunsAlike renderer.sources store
      (renderer.renderHelper render site.origin site.context name list main bodies span)
      (renderer.renderHelper render' site.origin site.context name list main bodies span) := by
  have law := RunsAlike.renderLaw renderer.sources store
  unfold renderHelper
  cases found : renderer.helpers.get? name.name with
  | none => exact law.raise _ _ _
  | some helper =>
    let call : Call := { renderer.params render site.origin site.context list with
      main, bodies, filters := renderer.filters }
    have runs : RunsAlike renderer.sources store (runHelper call helper)
        (runHelper (call.withRender (render' site.origin)) helper) := by
      refine confined _ _ found _ _ call _ (fun body isString => ?_)
        fun frames body plain holds => ?_
      · exact entered _ (.string mem isString)
      · exact entered _ (.nested frames mem (@Call.Holds.nests call body holds _ _ _) plain)
    exact law.after (law.gathered runs) fun result => law.noteOutcome site.origin span result

/-- Rendering a site does the same if rendering all sites that it enters does. -/
theorem renderParts_alike (confined : Helper.AllConfined renderer.helpers)
    {render render' : BodyRender} {site : Site}
    (entered : ∀ inner, site.Enters renderer.maxDepth (store.Loadable renderer.sources) inner →
      RunsAlike renderer.sources store (render inner.origin inner.context inner.body)
        (render' inner.origin inner.context inner.body)) :
    RunsAlike renderer.sources store
      (renderer.renderParts render site.origin site.context site.body)
      (renderer.renderParts render' site.origin site.context site.body) := by
  have law := RunsAlike.renderLaw renderer.sources store
  refine law.partByPart fun part mem =>
    law.renderPart entered law.looks mem fun name list main bodies span same => ?_
  subst same
  exact renderHelper_alike confined entered mem

/-- Whatever renders bodies as the evaluator does at all sites that are reached does the same as the
evaluator there. Elsewhere it may do anything. -/
theorem renderBody_alike (confined : Helper.AllConfined renderer.helpers) {start : Site}
    {other : Nat → BodyRender} (ends : ∀ origin context body,
      other 0 origin context body = throw .exhausted)
    (step : ∀ bound (site : Site),
      start.Reaches renderer.maxDepth (store.Loadable renderer.sources) site →
        other (bound + 1) site.origin site.context site.body =
          renderer.renderParts (other bound) site.origin site.context site.body)
    (bound : Nat) {site : Site}
    (reached : start.Reaches renderer.maxDepth (store.Loadable renderer.sources) site) :
    RunsAlike renderer.sources store (renderer.renderBody bound site.origin site.context site.body)
      (other bound site.origin site.context site.body) := by
  induction bound generalizing site with
  | zero =>
    rw [ends]
    exact .self fun _ => rfl
  | succ bound induction =>
    rw [step bound site reached]
    exact renderParts_alike confined fun inner entering => induction (reached.tail entering)

/-- Rendering a part does not depend on other helpers than the one that it calls. -/
theorem renderPart_withHelpers (renderer : Renderer) (render : BodyRender) (origin : Origin)
    (context : Context) {part : Part} {helpers : Dict Helper}
    (same : ∀ name, Template.helperName? part = some name →
      helpers.get? name = renderer.helpers.get? name) :
    { renderer with helpers }.renderPart render origin context part =
      renderer.renderPart render origin context part := by
  match part with
  | .text _ => rfl
  | .comment _ => rfl
  | .reference .. => rfl
  | .element (.test ..) .. => rfl
  | .element (.helper name) list main bodies span =>
    have found := same name.name rfl
    simp only [renderPart, renderHelper, found]
    rfl
  | .block .. => rfl
  | .inclusion .. => rfl

/-- Rendering parts does not depend on other helpers than those that they call. -/
theorem renderParts_withHelpers (renderer : Renderer) (render : BodyRender) (origin : Origin)
    (context : Context) {parts : Body} {helpers : Dict Helper}
    (same : ∀ part ∈ parts, ∀ name, Template.helperName? part = some name →
      helpers.get? name = renderer.helpers.get? name) :
    { renderer with helpers }.renderParts render origin context parts =
      renderer.renderParts render origin context parts := by
  induction parts with
  | nil => rfl
  | cons part rest induction =>
    have here := renderer.renderPart_withHelpers render origin context
      (same part List.mem_cons_self)
    have later := induction fun other mem => same other (List.mem_cons_of_mem _ mem)
    simp only [renderParts, here, later]

/-- Rendering a body does not depend on other helpers than those that are called in the sites that
are reached from it. -/
theorem renderBody_withHelpers (confined : Helper.AllConfined renderer.helpers) {start : Site}
    {helpers : Dict Helper}
    (same : ∀ site : Site,
      start.Reaches renderer.maxDepth (store.Loadable renderer.sources) site →
        ∀ part ∈ site.body, ∀ name, Template.helperName? part = some name →
          helpers.get? name = renderer.helpers.get? name) (bound : Nat) :
    RunsAlike renderer.sources store
      (renderer.renderBody bound start.origin start.context start.body)
      ({ renderer with helpers }.renderBody bound start.origin start.context start.body) :=
  @renderBody_alike renderer store confined start
    (fun bound => { renderer with helpers }.renderBody bound) (fun _ _ _ => rfl)
    (fun _ site reached => renderer.renderParts_withHelpers _ _ _ (same site reached)) bound
    start .refl

end Renderer

end Dust
