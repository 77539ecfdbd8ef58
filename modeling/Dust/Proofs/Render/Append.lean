import Dust.Proofs.Render.EvaluateLaw
import Dust.Proofs.Render.Run

/-!
# Renders append

A render only appends: what was written before is neither read nor cut. So the text and the error of
a body are the same wherever it is rendered, and only the first error of all is kept. This holds of
every step of the evaluator and of every helper that is always there, and so of whole renders.
-/

namespace Dust

/-- A run ends as another one does, with an output before that of the other. After a halt the output
is that of some body inside, and nothing is said about it. -/
def FollowsOutput {α : Type} (before : Output)
    (apart direct : Except Halt α × RenderState) : Prop :=
  ∃ output, direct = (apart.1, { apart.2 with output }) ∧
    ∀ value, apart.1 = .ok value → output = before ++ apart.2.output

/-- A step appends to the output, and keeps a property of the store. -/
def Appends (kept : Store → Prop) {α : Type} (step : RenderM α) : Prop :=
  ∀ state before, kept state.store →
    kept (step.runFrom state).2.store ∧
    FollowsOutput before (step.runFrom state)
      (step.runFrom { state with output := before ++ state.output })

namespace Appends

variable {kept : Store → Prop} {α β : Type}

/-- A step that ends the same way with any output appends. -/
theorem of_edit {step : RenderM α} (result : RenderState → Except Halt α)
    (edit : RenderState → RenderState)
    (runs : ∀ state, step.runFrom state = (result state, edit state))
    (stored : ∀ state, kept state.store → kept (edit state).store)
    (sameResult : ∀ state output, result { state with output } = result state)
    (appended : ∀ state before,
      edit { state with output := before ++ state.output } =
        { edit state with output := before ++ (edit state).output }) :
    Appends kept step := by
  intro state before isKept
  rw [runs state, runs { state with output := before ++ state.output }, appended,
    sameResult state (before ++ state.output)]
  exact ⟨stored state isKept, _, rfl, fun _ _ => rfl⟩

/-- Doing nothing appends. -/
theorem pure (value : α) : Appends kept (Pure.pure value : RenderM α) :=
  .of_edit (fun _ => .ok value) id (fun _ => rfl) (fun _ => id) (fun _ _ => rfl) fun _ _ => rfl

/-- Coming to a halt appends. -/
theorem halt (halt : Halt) : Appends kept (throw halt : RenderM α) :=
  .of_edit (fun _ => .error halt) id (fun _ => rfl) (fun _ => id) (fun _ _ => rfl) fun _ _ => rfl

/-- Looking at the data and the flags appends. -/
theorem read (view : Value → List Bool → α) :
    Appends kept (do let state ← get; return view state.root state.flags : RenderM α) :=
  .of_edit (fun state => .ok (view state.root state.flags)) id (fun _ => rfl) (fun _ => id)
    (fun _ _ => rfl) fun _ _ => rfl

/-- Writing text appends. -/
theorem write (text : String) : Appends kept (RenderM.write text) :=
  .of_edit (fun _ => .ok ()) (fun state => { state with output := state.output ++ { text } })
    (fun _ => by simp) (fun _ => id) (fun _ _ => rfl) fun _ _ => by simp [Output.append_assoc]

/-- Noting an error appends. -/
theorem noteError (error : Option Error) : Appends kept (RenderM.noteError error) :=
  .of_edit (fun _ => .ok ()) (fun state => { state with output := state.output ++ { error } })
    (fun _ => by simp) (fun _ => id) (fun _ _ => rfl) fun _ _ => by simp [Output.append_assoc]

/-- Steps in a row append if each of them does. -/
theorem bind {first : RenderM α} {next : α → RenderM β} (appends : Appends kept first)
    (after : ∀ value, Appends kept (next value)) : Appends kept (first >>= next) := by
  intro state before isKept
  obtain ⟨stored, output, follows, same⟩ := appends state before isKept
  rw [RenderM.runFrom_bind, RenderM.runFrom_bind, follows]
  rcases ends : first.runFrom state with ⟨result, later⟩
  rw [ends] at stored same
  cases result with
  | error halt => exact ⟨stored, output, rfl, fun _ isOk => by cases isOk⟩
  | ok value =>
    simp only [same value rfl]
    exact after value later before stored

/-- A change of data and flags appends. -/
theorem change (edit : Value → List Bool → Value × List Bool) :
    Appends kept (modify fun state => { state with
      root := (edit state.root state.flags).1, flags := (edit state.root state.flags).2 }) :=
  .of_edit (fun _ => .ok ()) _ (fun _ => rfl) (fun _ => id) (fun _ _ => rfl) fun _ _ => rfl

/-- A body with an output of its own ends the same way wherever it is rendered. -/
theorem apart {wrapped : RenderM α} {step : RenderM Unit} {value : Output → α}
    {shown : Output → Output} {aside : Output → Option Error}
    (runs : RenderM.RunsApart wrapped step value shown aside) (appends : Appends kept step) :
    Appends kept wrapped := by
  intro state before isKept
  obtain ⟨stored, -⟩ := appends { state with output := {} } {} isKept
  rw [runs, runs]
  rcases ends : step.runFrom { state with output := {} } with ⟨result, later⟩
  rw [ends] at stored
  cases result with
  | error halt => exact ⟨stored, _, rfl, fun _ isOk => by cases isOk⟩
  | ok value => exact ⟨stored, _, rfl, fun _ _ => Output.append_assoc before _ _⟩

/-- Gathering the errors of strings appends. -/
theorem gathered {step : RenderM α} (appends : Appends kept step) :
    Appends kept (RenderM.gathered step) := by
  intro state before isKept
  obtain ⟨stored, output, follows, same⟩ := appends { state with pending := none } before isKept
  rw [RenderM.runFrom_gathered, RenderM.runFrom_gathered, follows]
  rcases ends : step.runFrom { state with pending := none } with ⟨result, later⟩
  rw [ends] at stored same
  cases result with
  | error halt => exact ⟨stored, output, rfl, fun _ isOk => by cases isOk⟩
  | ok value =>
    simp only [same value rfl]
    exact ⟨stored, _, rfl, fun _ _ => Output.append_assoc before _ _⟩

/-- Loading a template appends, if what follows it does. -/
theorem loaded {sources : Sources} {first : Store} {name : String} {base : Option FilePath}
    {next : Except Error (Option Template) → RenderM α}
    (after : ∀ result,
      (∀ template, result = .ok (some template) → first.Loadable sources name base template) →
      Appends (first.Evolves sources) (next result)) :
    Appends (first.Evolves sources)
      (RenderM.withStore (fun store => store.load sources name base) >>= next) := by
  intro state before evolves
  have evolvesNext : first.Evolves sources (state.store.load sources name base).2 :=
    evolves.tail ⟨name, base, rfl⟩
  have appends := after (state.store.load sources name base).1 fun template isLoaded =>
    ⟨state.store, evolves, isLoaded⟩
  rw [RenderM.runFrom_bind, RenderM.runFrom_bind, RenderM.runFrom_withStore,
    RenderM.runFrom_withStore]
  exact appends { state with store := (state.store.load sources name base).2 } before evolvesNext

/-- A step that appends ends behind any output as it does in an output of its own. -/
theorem behind {step : RenderM α} (appends : Appends kept step) {state : RenderState}
    (isKept : kept state.store) (shown : Output) :
    kept (step.runFrom { state with output := {} }).2.store ∧
    FollowsOutput shown (step.runFrom { state with output := {} })
      (step.runFrom { state with output := shown }) := by
  simpa using appends { state with output := {} } shown isKept

/-- A step that ends with a result into an empty output ends with it behind any other output. -/
theorem runFrom_of_apart {step : RenderM α} (appends : Appends kept step)
    {state later : RenderState} (isKept : kept state.store) {value : α}
    (apart : step.runFrom { state with output := {} } = (.ok value, later)) :
    step.runFrom state = (.ok value, { later with output := state.output ++ later.output }) := by
  obtain ⟨-, output, follows, same⟩ := appends.behind isKept state.output
  rw [apart] at follows same
  rw [same value rfl] at follows
  exact follows

/-- All steps of the evaluator append. -/
theorem renderLaw (sources : Sources) (first : Store) :
    RenderLaw sources (first.Loadable sources)
      (fun step _ => Appends (first.Evolves sources) step)
      (fun step _ => Appends (first.Evolves sources) step)
      (fun step _ => Appends (first.Evolves sources) step) := by
  have steps : StepLaw fun step _ => Appends (first.Evolves sources) step :=
    { pure := .pure
      bind := .bind
      overflow := .halt .overflow
      read := .read
      change := .change
      write := .write }
  have output : OutputLaw sources (first.Loadable sources)
      fun step _ => Appends (first.Evolves sources) step :=
    { apart := fun runs _ => .apart runs
      gathered := .gathered
      loaded := .loaded
      raise := fun _ _ _ => .noteError _ }
  exact output.renderLaw steps

end Appends

/-- All helpers that rendering a site may call are among those that are always there, whatever the
data are. -/
def Site.UsesBuiltins (renderer : Renderer) (store : Store) (site : Site) : Prop :=
  ∀ inner, site.Reaches renderer.maxDepth (store.Loadable renderer.sources) inner →
    inner.CallsBuiltins renderer.helpers

/-- If there are no other helpers, no others are called. -/
theorem Site.usesBuiltins_of_helpers {renderer : Renderer}
    (helpers : renderer.helpers = Helper.builtins)
    (store : Store) (site : Site) : site.UsesBuiltins renderer store :=
  fun inner _ => inner.callsBuiltins_of_helpers helpers

namespace Renderer

/-- Rendering a body appends if it uses no other helpers than those that are always there. -/
theorem renderBody_appends {renderer : Renderer} {store : Store} (bound : Nat) (site : Site)
    (builtin : site.UsesBuiltins renderer store) :
    Appends (store.Evolves renderer.sources)
      (renderer.renderBody bound site.origin site.context site.body) := by
  induction bound generalizing site with
  | zero => exact .halt .exhausted
  | succ bound induction =>
    have law := Appends.renderLaw renderer.sources store
    have entered (inner : Site)
        (enters : site.Enters renderer.maxDepth (store.Loadable renderer.sources) inner) :
        Appends (store.Evolves renderer.sources)
          (renderer.renderBody bound inner.origin inner.context inner.body) :=
      induction inner fun later reaches => builtin later (.head enters reaches)
    exact @RenderLaw.renderParts renderer _ _ law (renderer.renderBody bound)
      (renderer.renderBody bound) site entered (builtin site .refl)

/-- Rendering parts and then others is rendering all of them. -/
theorem renderParts_append (renderer : Renderer) (render : BodyRender) (origin : Origin)
    (context : Context) (first second : Body) :
    renderer.renderParts render origin context (first ++ second) = (do
      renderer.renderParts render origin context first
      renderer.renderParts render origin context second) := by
  induction first with
  | nil => simp [renderParts]
  | cons part rest induction => simp [renderParts, induction]

/-- Rendering a body and then another one is rendering both as one body. -/
theorem renderBody_append (renderer : Renderer) (bound : Nat) (origin : Origin) (context : Context)
    (first second : Body) :
    renderer.renderBody bound origin context (first ++ second) = (do
      renderer.renderBody bound origin context first
      renderer.renderBody bound origin context second) := by
  cases bound with
  | zero => rfl
  | succ bound =>
    exact renderer.renderParts_append (renderer.renderBody bound) origin context first second

/-- Rendering a body that uses no other helpers than those that are always there writes the same
text behind whatever has been written, keeps an error that has been found before and otherwise finds
the same one, and changes the data, the templates and the flags of selections in the same way. So it
can be rendered into an output of its own, which is appended, and it can be rendered in pieces. -/
theorem renderBody_compositional (renderer : Renderer) (bound : Nat) (site : Site)
    (state : RenderState) (builtin : site.UsesBuiltins renderer state.store) :
    let render := renderer.renderBody bound site.origin site.context
    let direct := (render site.body).runFrom state
    let apart := (render site.body).runFrom { state with output := {} }
    direct.1 = apart.1 ∧
    (apart.1 = .ok () →
      direct.2 = { apart.2 with
        output := {
          text := state.output.text ++ apart.2.output.text
          error := state.output.error.or apart.2.output.error } } ∧
      (RenderM.fork (render site.body) >>= RenderM.append).runFrom state = direct) ∧
    ∀ first second, render (first ++ second) = (do render first; render second) := by
  intro render direct apart
  obtain ⟨-, output, follows, same⟩ :=
    renderBody_appends bound site builtin { state with output := {} } state.output .refl
  have direct_eq : direct = (apart.1, { apart.2 with output }) := by
    simpa using follows
  refine ⟨by rw [direct_eq], fun isOk => ?_, fun first second => ?_⟩
  · have appended : output = state.output ++ apart.2.output := same () isOk
    have direct_state : direct.2 = { apart.2 with output := state.output ++ apart.2.output } := by
      rw [direct_eq, appended]
    refine ⟨direct_state, ?_⟩
    have ends : (render site.body).runFrom { state with output := {} } = (.ok (), apart.2) :=
      Prod.ext isOk rfl
    rw [RenderM.runFrom_bind, RenderM.runFrom_fork, ends]
    simp only [RenderM.runFrom_append]
    exact (Prod.ext (by rw [direct_eq, isOk]) direct_state).symm
  · exact renderer.renderBody_append bound site.origin site.context first second

/-- A comparison in a selection, with a string in its parameter that names a filter that is not
known. -/
def selectionSite : Site :=
  let span : Span := default
  let path : Path := ⟨.relative, [.name "x"], span⟩
  let comparison : Part := .element (.helper ⟨"eq", span⟩)
    [⟨⟨"value", span⟩, .interpolated [.reference path [⟨"f", span⟩] span]⟩]
    (some [.text "same"]) [] span
  let selection : Part :=
    .element (.helper ⟨"select", span⟩) [⟨⟨"key", span⟩, .path path⟩] (some [comparison]) [] span
  ⟨⟨⟨"", [selection], [], none⟩, 0⟩, [], [selection]⟩

/-- A renderer with the helpers that are always there and without any files. -/
def builtinRenderer : Renderer where
  helpers := Helper.builtins
  filters := {}
  maxDepth := 1
  sources := { files := ⟨.directory [], []⟩ }
  globals := .null

/-- The comparison in a selection is rendered behind some text. -/
theorem renderBody_compositional_in_selection :
    selectionSite.UsesBuiltins builtinRenderer {} ∧
      ((builtinRenderer.renderBody 3 selectionSite.origin selectionSite.context
        selectionSite.body).runFrom
          { output := ⟨"before ", none⟩, root := .map [("x", .string "a")] }).2.output =
        { text := "before same"
          error := some
            { fault := .render (.unknownFilter "f"), location := some ⟨"", default⟩ } } := by
  have builtin : selectionSite.UsesBuiltins builtinRenderer {} :=
    Site.usesBuiltins_of_helpers rfl {} selectionSite
  obtain ⟨-, appended, -⟩ := renderBody_compositional builtinRenderer 3 selectionSite
    { output := ⟨"before ", none⟩, root := .map [("x", .string "a")] } builtin
  obtain ⟨final, -⟩ := appended (by rfl)
  refine ⟨builtin, ?_⟩
  rw [final]
  rfl

end Renderer

end Dust
