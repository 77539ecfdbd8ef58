import Dust.Render.Helper

/-!
# Relations between steps of a render

A property of every render is proved along the steps that a render is made of. What the steps have
in common is stated here once, for a relation between a step and a step that may stand in its place:
the relation holds between equal elementary steps, and is kept by doing one step after the other. A
property of single steps is a relation that ignores its second step.

Steps of helpers may give up. They are related when what they run is, and this too is kept by doing
one after the other. So the parameters and the bodies of a call are related for every relation with
these laws, if the bodies that the call renders are. Where the data are not looked at as a whole, or
where neither the data nor the flags are changed, fewer laws are enough.
-/

namespace Dust

/-- A relation between steps with results of one type, for every type. -/
abbrev StepRel := ∀ {α : Type}, RenderM α → RenderM α → Prop

/-- A relation that the elementary steps of helpers keep which change neither the data nor the
outcome of a selection. -/
structure CalmLaw (Rel : StepRel) : Prop where
  /-- Doing nothing is related to itself. -/
  pure : ∀ {α : Type} (result : α), Rel (Pure.pure result : RenderM α) (Pure.pure result)
  /-- Related steps in a row are related. -/
  bind : ∀ {α β : Type} {first first' : RenderM α} {next next' : α → RenderM β},
    Rel first first' → (∀ value, Rel (next value) (next' value)) →
      Rel (first >>= next) (first' >>= next')
  /-- Coming to a halt is related to itself. -/
  overflow : ∀ {α : Type}, Rel (throw .overflow : RenderM α) (throw .overflow)
  /-- Looking at the flags is related to itself. -/
  readFlags : ∀ {α : Type} (view : List Bool → α),
    Rel (do let state ← get; return view state.flags)
      (do let state ← get; return view state.flags)
  /-- Writing is related to itself. -/
  write : ∀ text, Rel (RenderM.write text) (RenderM.write text)
  /-- Related steps with a new flag are related. -/
  withFlag : ∀ {step step' : Nat → RenderM Unit}, (∀ flag, Rel (step flag) (step' flag)) →
    Rel (RenderM.withFlag step) (RenderM.withFlag step')

/-- A relation that the elementary steps of helpers keep which change neither the data nor the
outcome of a selection, also if they look at the data as a whole. -/
structure ReadLaw (Rel : StepRel) : Prop extends CalmLaw Rel where
  /-- Looking at the data and the flags is related to itself. -/
  read : ∀ {α : Type} (view : Value → List Bool → α),
    Rel (do let state ← get; return view state.root state.flags)
      (do let state ← get; return view state.root state.flags)
  readFlags := fun view => read fun _ flags => view flags

/-- Related steps with a new flag are related if looking at the flags and changing them is related to
itself. -/
theorem StepRel.withFlag {Rel : StepRel}
    (bind : ∀ {α β : Type} {first first' : RenderM α} {next next' : α → RenderM β},
      Rel first first' → (∀ value, Rel (next value) (next' value)) →
        Rel (first >>= next) (first' >>= next'))
    (readFlags : ∀ {α : Type} (view : List Bool → α),
      Rel (do let state ← get; return view state.flags)
        (do let state ← get; return view state.flags))
    (changeFlags : ∀ edit : List Bool → List Bool,
      Rel (modify fun state => { state with flags := edit state.flags })
        (modify fun state => { state with flags := edit state.flags }))
    {step step' : Nat → RenderM Unit} (related : ∀ flag, Rel (step flag) (step' flag)) :
    Rel (RenderM.withFlag step) (RenderM.withFlag step') := by
  have parts (step : Nat → RenderM Unit) : RenderM.withFlag step = (do
      let flag ← (do let state ← get; return state.flags.length : RenderM Nat)
      modify fun state => { state with flags := state.flags ++ [false] }
      step flag
      modify fun state => { state with flags := state.flags.take flag }) := rfl
  rw [parts, parts]
  refine bind (readFlags fun flags => flags.length) fun flag => ?_
  refine bind (changeFlags fun flags => flags ++ [false]) fun _ => ?_
  refine bind (related flag) fun _ => ?_
  exact changeFlags fun flags => flags.take flag

/-- A relation that the elementary steps of helpers keep which leave the data alone. -/
structure FlowLaw (Rel : StepRel) : Prop extends CalmLaw Rel where
  /-- Changing the flags is related to itself. -/
  changeFlags : ∀ edit : List Bool → List Bool,
    Rel (modify fun state => { state with flags := edit state.flags })
      (modify fun state => { state with flags := edit state.flags })
  withFlag := StepRel.withFlag bind readFlags changeFlags

/-- A relation that the elementary steps of helpers keep. Neither the output nor the store is looked
at by such a step. -/
structure StepLaw (Rel : StepRel) : Prop extends FlowLaw Rel, ReadLaw Rel where
  /-- Changing the data and the flags is related to itself. -/
  change : ∀ edit : Value → List Bool → Value × List Bool,
    Rel
      (modify fun state => { state with
        root := (edit state.root state.flags).1, flags := (edit state.root state.flags).2 })
      (modify fun state => { state with
        root := (edit state.root state.flags).1, flags := (edit state.root state.flags).2 })
  changeFlags := fun edit => change fun root flags => (root, edit flags)

/-- A frame without inline partials. -/
def Frame.IsPlain : Frame → Prop
  | .blocks _ => False
  | _ => True

/-- A body is a string with tags among parameters. -/
def Quoted (list : List Param) (body : Body) : Prop :=
  ∃ param ∈ list, param.argument = .interpolated body

/-- The parameters with another way to render strings. -/
def Params.withRender (params : Params) (render : Context → Body → RenderM Unit) : Params :=
  { params with render }

/-- The call with another way to render strings and bodies. -/
def Call.withRender (call : Call) (render : Context → Body → RenderM Unit) : Call :=
  { call with render }

/-- A body is one that the helper of a call may render. A missing main body counts as empty. -/
def Call.Holds (call : Call) (body : Body) : Prop :=
  body = [] ∨ call.main = some body ∨ ∃ name, call.bodies.get? name = some body

/-- The parameter that is found is one of the list. -/
theorem Params.find?_mem {params : Params} {name : String} {argument : Argument}
    (found : params.find? name = some argument) :
    ∃ param ∈ params.list, param.argument = argument := by
  obtain ⟨param, first, rfl⟩ := Option.map_eq_some_iff.mp found
  exact ⟨param, List.mem_reverse.mp (List.mem_of_find?_eq_some first), rfl⟩

/-- The main body, or an empty one in its place, is a body of the call. -/
theorem Call.holds_main (call : Call) : call.Holds (call.main.getD []) := by
  cases main : call.main with
  | none => exact .inl rfl
  | some body => exact .inr (.inl main)

/-- The body for the other case is a body of the call. -/
theorem Call.holds_else {call : Call} {body : Body} (found : call.body? "else" = some body) :
    call.Holds body :=
  .inr (.inr ⟨"else", found⟩)

namespace CalmLaw

variable {Rel : StepRel} (law : CalmLaw Rel)

section Steps

include law

/-- A step of a render as a step of a helper. -/
theorem lift {ε α : Type} {step step' : RenderM α} (related : Rel step step') :
    Rel (liftM step : ExceptT ε RenderM α).run (liftM step' : ExceptT ε RenderM α).run :=
  law.bind related fun value => law.pure (Except.ok value)

/-- Related steps of helpers in a row are related. When the first one gives up, nothing follows. -/
theorem liftBind {ε α β : Type} {first first' : ExceptT ε RenderM α}
    {next next' : α → ExceptT ε RenderM β} (related : Rel first.run first'.run)
    (after : ∀ value, Rel (next value).run (next' value).run) :
    Rel (first >>= next).run (first' >>= next').run := by
  refine law.bind related fun result => ?_
  cases result with
  | ok value => exact after value
  | error fault => exact law.pure _

/-- Asking whether a comparison has matched is related to itself. -/
theorem isResolved (selection : Selection) :
    Rel (RenderM.isResolved selection) (RenderM.isResolved selection) :=
  law.readFlags fun flags => flags.getD selection.flag false

end Steps

section Parameters

variable {params : Params} {render : Context → Body → RenderM Unit}
  (resolves : ∀ param ∈ params.list,
    Rel (params.resolve param.argument) ((params.withRender render).resolve param.argument))

include law resolves

/-- Finding the value of the parameter of a name is related. -/
theorem get? (name : String) :
    Rel (params.get? name) ((params.withRender render).get? name) := by
  have same : (params.withRender render).find? name = params.find? name := rfl
  unfold Params.get?
  rw [same]
  cases found : params.find? name with
  | none => exact law.pure _
  | some argument =>
    obtain ⟨param, mem, rfl⟩ := Params.find?_mem found
    exact resolves param mem

/-- Finding what is written of the value of a parameter is related. -/
theorem getText? (name : String) :
    Rel (params.getText? name) ((params.withRender render).getText? name) := by
  refine law.bind (law.get? resolves name) fun value => ?_
  split <;> exact law.pure _

/-- Finding the values of some of the parameters is related. -/
theorem resolveInto (entries : Dict Value) (list : List Param)
    (part : ∀ param ∈ list, param ∈ params.list) :
    Rel (params.resolveInto entries list)
      ((params.withRender render).resolveInto entries list) := by
  induction list generalizing entries with
  | nil => exact law.pure _
  | cons param rest induction =>
    have later entries := induction entries fun other mem => part other (List.mem_cons_of_mem _ mem)
    refine law.bind (resolves param (part param List.mem_cons_self)) fun value => ?_
    cases value with
    | some value => exact later _
    | none => exact later _

/-- Finding the values of all parameters is related. -/
theorem resolveAll : Rel params.resolveAll (params.withRender render).resolveAll :=
  law.resolveInto resolves [] params.list fun _ mem => mem

end Parameters

section Bodies

variable {call : Call} {render : Context → Body → RenderM Unit}
  (bodies : ∀ frames body, (∀ frame ∈ frames, frame.IsPlain) → call.Holds body →
    Rel (call.render (frames ++ call.context) body) (render (frames ++ call.context) body))

include bodies

/-- Rendering the main body behind more frames is related. -/
theorem renderMainIn (frames : Context) (plain : ∀ frame ∈ frames, frame.IsPlain) :
    Rel (call.renderMainIn (frames ++ call.context))
      ((call.withRender render).renderMainIn (frames ++ call.context)) :=
  bodies frames _ plain call.holds_main

/-- Rendering the main body is related. -/
theorem renderMain : Rel call.renderMain (call.withRender render).renderMain :=
  renderMainIn bodies [] (by simp)

include law

/-- Rendering the body for the other case is related. -/
theorem renderElse : Rel call.renderElse (call.withRender render).renderElse := by
  have same : (call.withRender render).body? "else" = call.body? "else" := rfl
  unfold Call.renderElse
  rw [same]
  cases found : call.body? "else" with
  | none => exact law.pure _
  | some body => exact bodies [] body (by simp) (Call.holds_else found)

end Bodies

end CalmLaw

namespace FlowLaw

/-- Noting a match is related to itself. -/
theorem resolve {Rel : StepRel} (law : FlowLaw Rel) (selection : Selection) :
    Rel (RenderM.resolve selection) (RenderM.resolve selection) :=
  law.changeFlags fun flags => flags.set selection.flag true

end FlowLaw

namespace ReadLaw

variable {Rel : StepRel} (law : ReadLaw Rel) {params : Params}
  {render : Context → Body → RenderM Unit}

include law

/-- Looking at the values around all frames is related to itself. -/
theorem scope (params : Params) : Rel params.scope params.scope :=
  law.read fun root _ => (⟨root, params.globals⟩ : Scope)

/-- Finding the values of parameters is related if rendering the strings among them is. -/
theorem resolves
    (strings : ∀ body, Quoted params.list body →
      Rel (params.resolve (.interpolated body))
        ((params.withRender render).resolve (.interpolated body))) (param : Param)
    (mem : param ∈ params.list) :
    Rel (params.resolve param.argument) ((params.withRender render).resolve param.argument) := by
  cases argument : param.argument with
  | literal literal => exact law.pure _
  | path path => exact law.read fun root _ => params.context.get? ⟨root, params.globals⟩ path
  | interpolated body => exact strings body ⟨param, mem, argument⟩

end ReadLaw

end Dust
