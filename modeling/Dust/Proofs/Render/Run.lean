import Dust.Engine.Render

/-!
# How a step ends

A step that starts from a state ends with a result or comes to a halt, and leaves a state. These are
the equations that follow a run through the elementary steps, and through the ways in which a body
is rendered into an output of its own. If the body comes to a halt, its output stays where it is.
-/

namespace Dust

/-- The outputs of two bodies after that of a third are those of the two together after it. -/
theorem Output.append_assoc (first second third : Output) :
    first ++ second ++ third = first ++ (second ++ third) := by
  change Output.append (Output.append first second) third =
    Output.append first (Output.append second third)
  simp [Output.append, Output.write, Output.withError, String.append_assoc, Option.or_assoc]

/-- Nothing follows an output that is empty. -/
@[simp]
theorem Output.append_empty (output : Output) : output ++ ({} : Output) = output := by
  change Output.append output {} = output
  simp [Output.append, Output.write, Output.withError]

/-- More text is another output. -/
theorem Output.write_eq_append (output : Output) (text : String) :
    output.write text = output ++ ({ text } : Output) := by
  change output.write text = Output.append output { text }
  simp [Output.append, Output.write, Output.withError]

/-- One more error is another output. -/
theorem Output.withError_eq_append (output : Output) (error : Option Error) :
    output.withError error = output ++ ({ error } : Output) := by
  change output.withError error = Output.append output { error }
  simp [Output.append, Output.write, Output.withError]

/-- A text with an error after it is one output. -/
theorem Output.text_append_error (text : String) (error : Option Error) :
    ({ text } : Output) ++ ({ error } : Output) = ⟨text, error⟩ := by
  change Output.append { text } { error } = ⟨text, error⟩
  simp [Output.append, Output.write, Output.withError]

/-- An output is another one with more text behind it. -/
theorem Output.write_ne (output : Output) {text : String} (more : text ≠ "") :
    output.write text ≠ output := by
  intro same
  have texts : output.text ++ text = output.text := congrArg Output.text same
  have lengths : output.text.length + text.length = output.text.length := by
    rw [← String.length_append, texts]
  have empty : text.length = 0 := by omega
  exact more (String.length_eq_zero_iff.mp empty)

/-- The text of an output with another one after it. -/
@[simp]
theorem Output.append_text (output later : Output) :
    (output ++ later).text = output.text ++ later.text := rfl

/-- The error of an output with another one after it. -/
@[simp]
theorem Output.append_error (output later : Output) :
    (output ++ later).error = output.error.or later.error := rfl

namespace RenderM

variable {α β : Type} (state : RenderState)

/-- How a step ends that starts from a state: with a result or a halt, and with a state. -/
def runFrom (step : RenderM α) (state : RenderState) : Except Halt α × RenderState :=
  step.run state

/-- What follows a step starts from the state that the step leaves. Nothing follows a halt. -/
theorem runFrom_bind (first : RenderM α) (next : α → RenderM β) :
    (first >>= next).runFrom state =
      match first.runFrom state with
      | (.ok value, later) => (next value).runFrom later
      | (.error halt, later) => (.error halt, later) := by
  change (match first.runFrom state with
    | (result, later) =>
      (ExceptT.bindCont next result : StateM RenderState (Except Halt β)) later) = _
  rcases first.runFrom state with ⟨result, later⟩
  cases result with
  | error halt => rfl
  | ok value => rfl

/-- Two steps in a row end with a result if both do. -/
theorem runFrom_bind_ok {state : RenderState} {first : RenderM α} {next : α → RenderM β} {value : β}
    {later : RenderState} (ends : (first >>= next).runFrom state = (.ok value, later)) :
    ∃ between middle, first.runFrom state = (.ok between, middle) ∧
      (next between).runFrom middle = (.ok value, later) := by
  rw [runFrom_bind] at ends
  rcases run : first.runFrom state with ⟨result, middle⟩
  rw [run] at ends
  cases result with
  | error halt => cases ends
  | ok between => exact ⟨between, middle, rfl, ends⟩

/-- Doing nothing leaves the state. -/
@[simp]
theorem runFrom_pure (value : α) : runFrom (pure value) state = (.ok value, state) := rfl

/-- A halt leaves the state. -/
@[simp]
theorem runFrom_throw (halt : Halt) :
    runFrom (throw halt : RenderM α) state = (.error halt, state) := rfl

/-- Looking at the state leaves it. -/
@[simp]
theorem runFrom_get : runFrom get state = (.ok state, state) := rfl

/-- The state is changed as told. -/
@[simp]
theorem runFrom_modify (edit : RenderState → RenderState) :
    runFrom (modify edit) state = (.ok (), edit state) := rfl

/-- Text is written behind the output. -/
@[simp]
theorem runFrom_write (text : String) :
    (write text).runFrom state =
      (.ok (), { state with output := state.output ++ ({ text } : Output) }) := by
  rw [← Output.write_eq_append]
  rfl

/-- An error is noted behind the output. -/
@[simp]
theorem runFrom_noteError (error : Option Error) :
    (noteError error).runFrom state =
      (.ok (), { state with output := state.output ++ ({ error } : Output) }) := by
  rw [← Output.withError_eq_append]
  rfl

/-- An output is appended. -/
@[simp]
theorem runFrom_append (output : Output) :
    (append output).runFrom state = (.ok (), { state with output := state.output ++ output }) := rfl

/-- The store is changed as told. -/
@[simp]
theorem runFrom_withStore (step : Store → α × Store) :
    (withStore step).runFrom state =
      (.ok (step state.store).1, { state with store := (step state.store).2 }) := rfl

/-- A step with an output of its own starts from an empty one, and the output around is put back. -/
theorem runFrom_fork (step : RenderM Unit) :
    (fork step).runFrom state =
      match step.runFrom { state with output := {} } with
      | (.ok _, later) => (.ok later.output, { later with output := state.output })
      | (.error halt, later) => (.error halt, later) := by
  simp only [fork, runFrom_bind, runFrom_get, runFrom_modify]
  rcases step.runFrom { state with output := {} } with ⟨result, later⟩
  cases result <;> rfl

/-- A step runs a body with an output of its own, which starts empty. In the end it has a value,
shows something behind the output around, and sets an error aside, all as that output tells. -/
def RunsApart (wrapped : RenderM α) (step : RenderM Unit) (value : Output → α)
    (shown : Output → Output) (aside : Output → Option Error) : Prop :=
  ∀ state, wrapped.runFrom state =
    match step.runFrom { state with output := {} } with
    | (.ok _, later) =>
      (.ok (value later.output),
        { later with
          output := state.output ++ shown later.output
          pending := later.pending.or (aside later.output) })
    | (.error halt, later) => (.error halt, later)

/-- A step ends with a result if the body does that it runs with an output of its own. -/
theorem RunsApart.ok {wrapped : RenderM α} {step : RenderM Unit} {value : Output → α}
    {shown : Output → Output} {aside : Output → Option Error}
    (runs : RunsApart wrapped step value shown aside) {state later : RenderState} {result : α}
    (ends : wrapped.runFrom state = (.ok result, later)) :
    ∃ inner, step.runFrom { state with output := {} } = (.ok (), inner) ∧
      result = value inner.output ∧
      later = { inner with
        output := state.output ++ shown inner.output
        pending := inner.pending.or (aside inner.output) } := by
  rw [runs] at ends
  rcases run : step.runFrom { state with output := {} } with ⟨own, inner⟩
  rw [run] at ends
  cases own with
  | error halt => cases ends
  | ok own =>
    cases ends
    exact ⟨inner, rfl, rfl, rfl⟩

/-- A string has its text as its value, and its error is set aside. -/
theorem quoted_runsApart (step : RenderM Unit) :
    RunsApart (quoted step) step (fun own => .string own.text) (fun _ => {}) Output.error := by
  intro state
  simp only [quoted, runFrom_bind, runFrom_fork]
  rcases step.runFrom { state with output := {} } with ⟨result, later⟩
  cases result <;> simp

/-- A name has its text as its value, and its error is noted. -/
theorem named_runsApart (step : RenderM Unit) :
    RunsApart (named step) step Output.text (fun own => { error := own.error })
      fun _ => none := by
  intro state
  simp only [named, runFrom_bind, runFrom_fork]
  rcases step.runFrom { state with output := {} } with ⟨result, later⟩
  cases result <;> simp

/-- An included template is appended, its error with the name of the template. -/
theorem included_runsApart (name : String) (step : RenderM Unit) :
    RunsApart (included name step) step (fun _ => ())
      (fun own => ⟨own.text, own.error.map fun error => error.inTemplate name⟩)
      fun _ => none := by
  intro state
  simp only [included, runFrom_bind, runFrom_fork]
  rcases step.runFrom { state with output := {} } with ⟨result, later⟩
  cases result with
  | error halt => rfl
  | ok value => simp [Output.append_assoc, Output.text_append_error]

/-- The errors that a step sets aside are noted after it. -/
theorem runFrom_gathered (step : RenderM α) :
    (gathered step).runFrom state =
      match step.runFrom { state with pending := none } with
      | (.ok value, later) =>
        (.ok value, { later with
          output := later.output ++ ({ error := later.pending } : Output)
          pending := state.pending })
      | (.error halt, later) => (.error halt, later) := by
  simp only [gathered, gatherPending, runFrom_bind, runFrom_get, runFrom_modify]
  rcases step.runFrom { state with pending := none } with ⟨result, later⟩
  cases result <;> simp

/-- Gathering the errors of strings ends with a result if the step does. -/
theorem runFrom_gathered_ok {state later : RenderState} {step : RenderM α} {value : α}
    (ends : (gathered step).runFrom state = (.ok value, later)) :
    ∃ inner, step.runFrom { state with pending := none } = (.ok value, inner) ∧
      later = { inner with
        output := inner.output ++ ({ error := inner.pending } : Output)
        pending := state.pending } := by
  rw [runFrom_gathered] at ends
  rcases run : step.runFrom { state with pending := none } with ⟨result, inner⟩
  rw [run] at ends
  cases result with
  | error halt => cases ends
  | ok result =>
    cases ends
    exact ⟨inner, rfl, rfl⟩

/-- A step with a new flag starts from the flags with one more, which is dropped in the end. -/
theorem runFrom_withFlag (step : Nat → RenderM Unit) :
    (withFlag step).runFrom state =
      match (step state.flags.length).runFrom { state with flags := state.flags ++ [false] } with
      | (.ok _, later) => (.ok (), { later with flags := later.flags.take state.flags.length })
      | (.error halt, later) => (.error halt, later) := by
  simp only [withFlag, runFrom_bind, runFrom_get, runFrom_modify]
  rcases (step state.flags.length).runFrom { state with flags := state.flags ++ [false] } with
    ⟨result, later⟩
  cases result <;> rfl

/-! ### Steps of helpers -/

/-- A step of a render as a step of a helper ends as it does, and does not give up. -/
theorem runFrom_lift {ε : Type} (step : RenderM α) :
    (liftM step : ExceptT ε RenderM α).run.runFrom state =
      match step.runFrom state with
      | (.ok value, later) => (.ok (.ok value), later)
      | (.error halt, later) => (.error halt, later) :=
  runFrom_bind state step fun value => pure (Except.ok value)

/-- What follows a step of a helper starts from the state that the step leaves, unless the helper
gives up. -/
theorem runFrom_run_bind {ε : Type} (first : ExceptT ε RenderM α) (next : α → ExceptT ε RenderM β) :
    (first >>= next).run.runFrom state =
      match first.run.runFrom state with
      | (.ok (.ok value), later) => (next value).run.runFrom later
      | (.ok (.error fault), later) => (.ok (.error fault), later)
      | (.error halt, later) => (.error halt, later) := by
  have parts : (first >>= next).run =
      first.run >>= fun result => (ExceptT.bindCont next result : RenderM (Except ε β)) := rfl
  rw [parts, runFrom_bind]
  rcases first.run.runFrom state with ⟨(halt | (fault | value)), later⟩ <;> rfl

/-- What follows a step of a render in a helper starts from the state that the step leaves. -/
theorem runFrom_liftBind {ε : Type} (first : RenderM α) (next : α → ExceptT ε RenderM β) :
    ((liftM first : ExceptT ε RenderM α) >>= next).run.runFrom state =
      match first.runFrom state with
      | (.ok value, later) => (next value).run.runFrom later
      | (.error halt, later) => (.error halt, later) := by
  rw [runFrom_run_bind, runFrom_lift]
  rcases first.runFrom state with ⟨(halt | value), later⟩ <;> rfl

end RenderM

/-- What a reference writes, given the value that its path leads to. -/
def Renderer.referenceOutput (renderer : Renderer) (origin : Origin) (chain : List Identifier)
    (value : Option Value) : Output :=
  match value with
  | none => {}
  | some value =>
    { text := (renderer.filters.apply (chain.map Identifier.name) value).display
      error := (renderer.filters.unknown? chain).map fun filter =>
        (Error.ofRender (.unknownFilter filter.name)).withLocation origin.template.source
          filter.span }

/-- A reference writes its value as its filters make it, with an error at the first filter that is
not known. -/
theorem Renderer.runFrom_reference (renderer : Renderer) (origin : Origin) (context : Context)
    (path : Path) (chain : List Identifier) (state : RenderState) :
    (renderer.renderReference origin context path chain).runFrom state =
      (.ok (), { state with
        output := state.output ++
          renderer.referenceOutput origin chain
            (context.get? ⟨state.root, renderer.globals⟩ path) }) := by
  have scope : renderer.scope.runFrom state = (.ok ⟨state.root, renderer.globals⟩, state) := rfl
  simp only [renderReference, RenderM.runFrom_bind, scope]
  cases context.get? ⟨state.root, renderer.globals⟩ path with
  | none => simp [referenceOutput]
  | some value =>
    cases unknown : renderer.filters.unknown? chain with
    | none => simp [referenceOutput, unknown]
    | some filter =>
      simp only [referenceOutput, unknown, Option.map_some]
      rfl

/-- The tag of a helper that does what a step of a render does, and does not give up, is this step
while the errors of parameters are gathered. -/
theorem Renderer.runFrom_renderHelper {renderer : Renderer} {render : BodyRender} {origin : Origin}
    {context : Context} {name : Identifier} {list : List Param} {main : Option Body}
    {bodies : Dict Body} {span : Span} {state : RenderState} {helper : Helper}
    {step : RenderM Unit} (found : renderer.helpers.get? name.name = some helper)
    (runs : (runHelper { renderer.params render origin context list with
      main, bodies, filters := renderer.filters } helper).runFrom { state with pending := none } =
        (liftM step : ExceptT RenderFault RenderM Unit).run.runFrom { state with pending := none }) :
    (renderer.renderHelper render origin context name list main bodies span).runFrom state =
      (RenderM.gathered step).runFrom state := by
  simp only [renderHelper, found, RenderM.runFrom_bind, RenderM.runFrom_gathered, runs,
    RenderM.runFrom_lift]
  rcases step.runFrom { state with pending := none } with ⟨result, later⟩
  cases result <;> rfl

/-- The state that a render by an engine starts from. -/
def Engine.startState (engine : Engine) (input : RenderInput) : RenderState :=
  { root := input.data.withFiniteFloats, store := engine.store, reports := engine.reports }

/-- What an engine answers to a render that has ended: what is written, or the halt that it comes
to. -/
def answerTo : Except Halt Unit × RenderState → Except Failure Output
  | (.ok _, state) => .ok state.output
  | (.error halt, _) => .error (.halt halt)

namespace EngineM

/-- An engine keeps what a render has loaded and reported, and answers with the result of the render
and what it has written. -/
theorem onRender_run {α : Type} (engine : Engine) (root : Value) (step : RenderM α) :
    (onRender root step).run engine =
      match step.runFrom { root, store := engine.store, reports := engine.reports } with
      | (.ok answer, state) =>
        (.ok (answer, state.output), { engine with store := state.store, reports := state.reports })
      | (.error halt, state) =>
        (.error (.halt halt), { engine with store := state.store, reports := state.reports }) := by
  change (finishRender (step.runFrom
    { root, store := engine.store, reports := engine.reports })).run engine = _
  rcases step.runFrom { root, store := engine.store, reports := engine.reports } with
    ⟨result, later⟩
  cases result <;> rfl

/-- The answer of an engine to a render. -/
theorem renderOutput_run (engine : Engine) (template : Template) (input : RenderInput) :
    ((renderOutput template input).run engine).1 =
      answerTo (((engine.renderer input).renderTemplate engine.bound template).runFrom
        (engine.startState input)) := by
  let render := onRender input.data.withFiniteFloats
    ((engine.renderer input).renderTemplate engine.bound template)
  have answered : ((renderOutput template input).run engine).1 =
      (render.run engine).1.map Prod.snd := by
    change (match render.run engine with
      | (result, later) => (ExceptT.bindCont (fun answer : Unit × Output => pure answer.2)
        result : StateM Engine (Except Failure Output)) later).1 = _
    rcases render.run engine with ⟨result, later⟩
    cases result <;> rfl
  rw [answered, onRender_run, Engine.startState]
  rcases ((engine.renderer input).renderTemplate engine.bound template).runFrom _ with
    ⟨result, later⟩
  cases result <;> rfl

/-- A text is the answer of an engine if the render ends with it. -/
theorem renderOutput_eq_ok {engine : Engine} {template : Template} {input : RenderInput}
    {output : Output} (ends : ((renderOutput template input).run engine).1 = .ok output) :
    ∃ later, ((engine.renderer input).renderTemplate engine.bound template).runFrom
        (engine.startState input) = (.ok (), later) ∧ later.output = output := by
  rw [renderOutput_run] at ends
  rcases run : ((engine.renderer input).renderTemplate engine.bound template).runFrom
    (engine.startState input) with ⟨result, later⟩
  rw [run] at ends
  cases result with
  | error halt => cases ends
  | ok value => exact ⟨later, rfl, Except.ok.inj ends⟩

end EngineM

end Dust
