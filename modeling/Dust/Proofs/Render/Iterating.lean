import Dust.Proofs.Render.Append

/-!
# Sections that go through a list

A section goes through the list that its key has led to when it was entered. Its body is rendered
once for every item, in order, in a frame with the item and its place, whatever happens to the data
on the way. The place is seen through all frames that do not tell one of their own, and helpers
render their bodies by it.
-/

namespace Dust

namespace Renderer

variable (renderer : Renderer) (render : BodyRender) (origin : Origin) (context : Context)

/-- Renders a body into an output of its own, in a frame with an item of a list and its place. -/
def renderItem (length : Nat) (body : Body) (placed : Value × Nat) : RenderM Output :=
  RenderM.fork (render origin (.value placed.1 (some ⟨placed.2, length⟩) :: context) body)

/-- Renders a body for every item of a list in order, each into an output of its own. -/
def renderEach (body : Body) (items : List Value) : RenderM (List Output) :=
  items.zipIdx.mapM (renderItem render origin context items.length body)

end Renderer

/-! ### Going through a list -/

namespace Renderer

variable {render : BodyRender} {origin : Origin} {context : Context} {kept : Store → Prop}

/-- Going through the items of a list is rendering the body for each of them into an output of its
own, and appending the outputs. Anything may have been written, and some items may be done. -/
theorem renderItems_eq_each {body : Body} {length : Nat}
    (appends : ∀ item place,
      Appends kept (render origin (.value item (some place) :: context) body))
    (items : List Value) (index : Nat) (state : RenderState) (isKept : kept state.store)
    (shown : Output) :
    let direct := (renderItems render origin context length body index items).runFrom
      { state with output := shown }
    let each := ((items.zipIdx index).mapM (renderItem render origin context length body)).runFrom
      state
    direct.1 = each.1.map (fun _ => ()) ∧
      ∀ outputs later, each = (.ok outputs, later) →
        outputs.length = items.length ∧ later.output = state.output ∧
        direct = (.ok (), { later with output := outputs.foldl (· ++ ·) shown }) := by
  induction items generalizing index state shown with
  | nil =>
    refine ⟨rfl, fun outputs later ends => ?_⟩
    cases ends
    exact ⟨rfl, rfl, rfl⟩
  | cons item rest induction =>
    obtain ⟨stored, output, follows, same⟩ := (appends item ⟨index, length⟩).behind isKept shown
    simp only [List.zipIdx_cons, List.mapM_cons, renderItems, RenderM.runFrom_bind, renderItem,
      RenderM.runFrom_fork, follows]
    rcases run : (render origin (.value item (some ⟨index, length⟩) :: context) body).runFrom
      { state with output := {} } with ⟨result, middle⟩
    rw [run] at stored same
    cases result with
    | error halt => exact ⟨rfl, fun outputs later ends => by cases ends⟩
    | ok _ =>
      obtain rfl : output = shown ++ middle.output := same () rfl
      obtain ⟨sameResult, appended⟩ :=
        induction (index + 1) { middle with output := state.output } stored (shown ++ middle.output)
      simp only at sameResult appended ⊢
      rcases behind : ((rest.zipIdx (index + 1)).mapM
        (renderItem render origin context length body)).runFrom
          { middle with output := state.output } with ⟨result, last⟩
      rw [behind] at sameResult appended
      cases result with
      | error halt => exact ⟨sameResult, fun outputs later ends => by cases ends⟩
      | ok outputs =>
        obtain ⟨count, restored, direct⟩ := appended outputs last rfl
        refine ⟨sameResult, fun all later ends => ?_⟩
        cases ends
        exact ⟨congrArg (· + 1) count, restored, direct⟩

/-- Parameters are put around the bodies of a section in a plain frame, if at all. -/
theorem withParams_ends {renderer : Renderer} {list : List Param} {inner : Context}
    {state later : RenderState}
    (ends : (renderer.withParams render origin context list).runFrom state = (.ok inner, later)) :
    ∃ frames, inner = frames ++ context ∧ ∀ frame ∈ frames, frame.IsPlain := by
  unfold withParams at ends
  split at ends
  · cases ends
    exact ⟨[], rfl, by simp⟩
  · obtain ⟨values, middle, -, ends⟩ := RenderM.runFrom_bind_ok ends
    cases ends
    exact ⟨[.value (.map values) none], rfl, by simp [Frame.IsPlain]⟩

/-- A section whose key has led to a list with items goes through them behind its parameters. -/
theorem runFrom_renderTest_list {renderer : Renderer} {key : Path} {list : List Param} {body : Body}
    {bodies : Dict Body} {state : RenderState} {items : List Value}
    (isList : context.get? ⟨state.root, renderer.globals⟩ key = some (.list items))
    (filled : items ≠ []) :
    (renderer.renderTest render origin context .iterate key list (some body) bodies).runFrom state =
      (do
        let inner ← renderer.withParams render origin context list
        renderItems render origin inner items.length body 0 items).runFrom state := by
  have truthy : (some (Value.list items)).any Value.isTruthy = true := by
    simpa [Value.isTruthy] using filled
  have looked : renderer.scope.runFrom state = (.ok ⟨state.root, renderer.globals⟩, state) := rfl
  simp only [renderTest, RenderM.runFrom_bind, looked, isList, renderChoice, truthy, renderFor]

/-- Bodies that a section enters append to the output. -/
theorem appends_of_enters {renderer : Renderer} {store : Store} {site inner : Site}
    (builtin : Site.UsesBuiltins renderer store site) (bound : Nat)
    (enters : site.Enters renderer.maxDepth (store.Loadable renderer.sources) inner) :
    Appends (store.Evolves renderer.sources)
      (renderer.renderBody bound inner.origin inner.context inner.body) :=
  renderBody_appends bound inner fun later reaches => builtin later (.head enters reaches)

/-- The values of the parameters of a section are taken by appending to the output. -/
theorem withParams_appends {renderer : Renderer} {store : Store} {bound : Nat} {kind : SectionKind}
    {key : Path} {list : List Param} {main : Option Body} {bodies : Dict Body} {span : Span}
    (builtin : Site.UsesBuiltins renderer store
      ⟨origin, context, [.element (.test kind key) list main bodies span]⟩) :
    Appends (store.Evolves renderer.sources)
      (renderer.withParams (renderer.renderBody bound) origin context list) := by
  have law := Appends.renderLaw renderer.sources store
  let render := renderer.renderBody bound
  unfold withParams
  split
  · exact .pure _
  · refine .bind ?_ fun values => .pure _
    exact @RenderFlowLaw.partParams renderer _ _ _ _ law.toRenderFlowLaw render render
      ⟨origin, context, [.element (.test kind key) list main bodies span]⟩
      (fun _ enters => appends_of_enters builtin bound enters) law.looks _ List.mem_cons_self list
      (fun _ => id) fun param mem path isPath => .inr ⟨param, mem, isPath⟩

/-- A section whose key has led to a list with items renders its main body for each of them into an
output of its own, behind its parameters, and appends the outputs. -/
theorem renderTest_eq_each {renderer : Renderer} {bound : Nat} {key : Path} {list : List Param}
    {body : Body} {bodies : Dict Body} {span : Span} {state : RenderState} {items : List Value}
    (isList : context.get? ⟨state.root, renderer.globals⟩ key = some (.list items))
    (filled : items ≠ [])
    (builtin : Site.UsesBuiltins renderer state.store
      ⟨origin, context, [.element (.test .iterate key) list (some body) bodies span]⟩) :
    let render := renderer.renderBody bound
    let direct := (renderer.renderTest render origin context .iterate key list (some body)
      bodies).runFrom state
    let each := (do
      let inner ← renderer.withParams render origin context list
      renderEach render origin inner body items).runFrom state
    direct.1 = each.1.map (fun _ => ()) ∧
      ∀ outputs later, each = (.ok outputs, later) →
        outputs.length = items.length ∧
        direct = (.ok (), { later with output := outputs.foldl (· ++ ·) later.output }) := by
  intro render direct each
  have through : direct = _ := runFrom_renderTest_list isList filled
  rw [through]
  simp only [each, RenderM.runFrom_bind]
  have params : Appends (state.store.Evolves renderer.sources)
      (renderer.withParams render origin context list) := withParams_appends builtin
  have kept := (params state {} .refl).1
  rcases ends : (renderer.withParams render origin context list).runFrom state with ⟨result, middle⟩
  rw [ends] at kept
  cases result with
  | error halt => exact ⟨rfl, fun outputs later ends => by cases ends⟩
  | ok inner =>
    obtain ⟨frames, rfl, plain⟩ := withParams_ends ends
    have appends (item : Value) (place : Iteration) : Appends (state.store.Evolves renderer.sources)
        (render origin (.value item (some place) :: (frames ++ context)) body) := by
      have entered : ∀ frame ∈ .value item (some place) :: frames, frame.IsPlain :=
        List.forall_mem_cons.mpr ⟨trivial, plain⟩
      exact appends_of_enters builtin bound
        (.nested _ List.mem_cons_self (.inr (.inl rfl)) entered)
    obtain ⟨sameResult, appended⟩ := renderItems_eq_each appends items 0 middle kept middle.output
    refine ⟨sameResult, fun outputs later ends => ?_⟩
    obtain ⟨count, restored, direct⟩ := appended outputs later ends
    rw [restored]
    exact ⟨count, direct⟩

end Renderer

/-! ### The place in a list -/

namespace Context

variable {frames context : Context} {item : Value} {place : Iteration}

/-- The place of an item is seen through frames that tell no place. -/
theorem iteration?_behind (unplaced : ∀ frame ∈ frames, frame.iteration? = none) :
    iteration? (frames ++ .value item (some place) :: context) = some place := by
  have none : frames.findSome? Frame.iteration? = none := List.findSome?_eq_none_iff.mpr unplaced
  rw [iteration?, List.findSome?_append, none]
  rfl

/-- A name that tells the place in a list is found before all values. -/
theorem get?_of_special? {name : String} {value : Value}
    (special : context.special? name = some value) (scope : Scope) (span : Span) :
    context.get? scope ⟨.relative, [.name name], span⟩ = some value := by
  simp only [get?, toStep?, find?, special, Option.bind_eq_bind, Option.bind_some, Option.some_or,
    followKeys?]

end Context

/-- Whether a place in a list is between the items that are left out at the start and those that are
left out at the end. -/
def Iteration.IsBetween (place : Iteration) (start omitted : Int) : Prop :=
  start ≤ place.index ∧ (place.index : Int) < place.length - omitted

instance (place : Iteration) (start omitted : Int) : Decidable (place.IsBetween start omitted) :=
  inferInstanceAs (Decidable (_ ∧ _))

/-- The helper that renders between items asks for the numbers of items to leave out, and renders its
body in between. It stops the program if the place where it ends is beyond the integers, unless the
place of the item is left out at the start. -/
theorem Helper.separator_runFrom {call : Call} {place : Iteration}
    (placed : call.context.iteration? = some place) {start omitted : Int}
    {state middle later : RenderState}
    (asksStart : (integerParam call "start" 0).runFrom state = (.ok start, middle))
    (asksEnd : (integerParam call "end" 1).runFrom middle = (.ok omitted, later)) :
    (Renderer.runHelper call separator).runFrom state =
      if Number.greatestInteger < place.length - omitted ∧ start ≤ place.index then
        (.error .overflow, later)
      else
        (liftM (if place.IsBetween start omitted then call.renderMain else pure ()) :
          ExceptT RenderFault RenderM Unit).run.runFrom later := by
  unfold Renderer.runHelper separator
  simp only [placed]
  rw [RenderM.runFrom_liftBind, asksStart]
  simp only
  rw [RenderM.runFrom_liftBind, asksEnd]
  simp only
  by_cases beyond : Number.greatestInteger < place.length - omitted ∧ start ≤ place.index
  · rw [if_pos beyond, if_pos beyond]
    rfl
  · rw [if_neg beyond, if_neg beyond]
    have unfolded : place.IsBetween start omitted ↔
        start ≤ place.index ∧ (place.index : Int) < place.length - omitted := Iff.rfl
    by_cases between : place.IsBetween start omitted
    · rw [if_pos (unfolded.mp between), if_pos between]
    · rw [if_neg (between ∘ unfolded.mpr), if_neg between]
      rfl

namespace Renderer

variable {renderer : Renderer} {render : BodyRender} {origin : Origin} {context : Context}
  {name : Identifier} {list : List Param} {main : Option Body} {bodies : Dict Body} {span : Span}
  {place : Iteration} {state : RenderState}

/-- A helper that does nothing but render its body where a decision says so renders it while the
errors of parameters are gathered, or leaves the state. -/
theorem renderHelper_when {helper : Helper} {decision : Bool}
    (found : renderer.helpers.get? name.name = some helper)
    (runs : (runHelper { renderer.params render origin context list with
      main, bodies, filters := renderer.filters } helper).runFrom { state with pending := none } =
        (liftM (if decision then render origin context (main.getD []) else pure ()) :
          ExceptT RenderFault RenderM Unit).run.runFrom { state with pending := none }) :
    (renderer.renderHelper render origin context name list main bodies span).runFrom state =
      if decision then (RenderM.gathered (render origin context (main.getD []))).runFrom state
      else (.ok (), state) := by
  rw [runFrom_renderHelper found runs]
  cases decision with
  | true => rfl
  | false =>
    rw [if_neg Bool.false_ne_true, if_neg Bool.false_ne_true, RenderM.runFrom_gathered]
    change (Except.ok (), { state with output := state.output ++ ({} : Output) }) = _
    rw [Output.append_empty]

/-- A helper that looks at the place in a list renders its body if the place passes the test. -/
theorem renderHelper_whenPlaced {test : Iteration → Bool}
    (found : renderer.helpers.get? name.name = some (Helper.whenPlaced test))
    (placed : context.iteration? = some place) :
    (renderer.renderHelper render origin context name list main bodies span).runFrom state =
      if test place then (RenderM.gathered (render origin context (main.getD []))).runFrom state
      else (.ok (), state) := by
  refine renderHelper_when found (congrArg (fun step => RenderM.runFrom step _) ?_)
  have passes : context.iteration?.any test = test place := by
    rw [placed]
    rfl
  simp only [runHelper, Helper.whenPlaced, params, passes]
  cases test place <;> rfl

/-- Without parameters the helper that renders between items renders its body for all items but the
last one. -/
theorem renderHelper_separator
    (found : renderer.helpers.get? name.name = some Helper.separator)
    (placed : context.iteration? = some place)
    (counted : (place.length : Int) - 1 ≤ Number.greatestInteger) :
    (renderer.renderHelper render origin context name [] main bodies span).runFrom state =
      if place.index + 1 < place.length then
        (RenderM.gathered (render origin context (main.getD []))).runFrom state
      else (.ok (), state) := by
  let inner : RenderState := { state with pending := none }
  let call : Call := { renderer.params render origin context [] with
    main, bodies, filters := renderer.filters }
  have inRange : ¬ (Number.greatestInteger < (place.length : Int) - 1 ∧ (0 : Int) ≤ place.index) :=
    fun beyond => absurd beyond.1 (Int.not_lt.mpr counted)
  have between : place.IsBetween 0 1 ↔ place.index + 1 < place.length := by
    unfold Iteration.IsBetween
    omega
  have runs := @Helper.separator_runFrom call place placed 0 1 inner inner inner rfl rfl
  rw [if_neg inRange, ← Bool.cond_decide, Bool.cond_eq_ite] at runs
  have decided := @renderHelper_when renderer render origin context name [] main bodies span state
    _ _ found runs
  simpa only [decide_eq_true_eq, between] using decided

/-- A call of a helper renders its main body if a test is passed, and otherwise does nothing. -/
def CallRendersIf (renderer : Renderer) (context : Context) (helper : String) (list : List Param)
    (test : Bool) : Prop :=
  ∀ (render : BodyRender) (origin : Origin) (place span : Span) (main : Option Body)
    (bodies : Dict Body) (state : RenderState),
    (renderer.renderPart render origin context
      (.element (.helper ⟨helper, place⟩) list main bodies span)).runFrom state =
        if test then (RenderM.gathered (render origin context (main.getD []))).runFrom state
        else (.ok (), state)

/-- What a context tells of the place in a list. -/
structure ShowsPlace (renderer : Renderer) (context : Context) (place : Iteration) : Prop where
  /-- The number of items before this one. -/
  index : ∀ scope span, context.get? scope ⟨.relative, [.name "$idx"], span⟩ =
    some (Value.ofNat place.index)
  /-- The key of the item is the same. -/
  key : ∀ scope span, context.get? scope ⟨.relative, [.name "$key"], span⟩ =
    some (Value.ofNat place.index)
  /-- The number of the item. -/
  number : ∀ scope span, context.get? scope ⟨.relative, [.name "$iter"], span⟩ =
    some (Value.ofNat (place.index + 1))
  /-- The number of all items. -/
  length : ∀ scope span, context.get? scope ⟨.relative, [.name "$len"], span⟩ =
    some (Value.ofNat place.length)
  /-- The first item has a helper of its own. -/
  first : ∀ list, CallRendersIf renderer context "first" list (place.index = 0)
  /-- The last item has a helper of its own. -/
  last : ∀ list, CallRendersIf renderer context "last" list (place.index + 1 = place.length)
  /-- All items but the last one have a helper of their own, as far as they can be counted. -/
  separator : (place.length : Int) - 1 ≤ Number.greatestInteger →
    CallRendersIf renderer context "sep" [] (place.index + 1 < place.length)

/-- The place of an item is shown through frames that tell no place. -/
theorem showsPlace (renderer : Renderer)
    (helpers : ∀ helper ∈ ["first", "last", "sep"],
      renderer.helpers.get? helper = Helper.builtins.get? helper)
    {frames : Context} (unplaced : ∀ frame ∈ frames, frame.iteration? = none) (item : Value)
    (place : Iteration) (context : Context) :
    ShowsPlace renderer (frames ++ .value item (some place) :: context) place := by
  have placed : Context.iteration? (frames ++ .value item (some place) :: context) = some place :=
    Context.iteration?_behind unplaced
  have special (name : String) (value : Value)
      (isSpecial : Context.special? [.value item (some place)] name = some value) (scope : Scope)
      (span : Span) : Context.get? (frames ++ .value item (some place) :: context) scope
        ⟨.relative, [.name name], span⟩ = some value := by
    refine Context.get?_of_special? ?_ scope span
    rw [← isSpecial, Context.special?, placed]
    rfl
  exact {
    index := special "$idx" _ rfl
    key := special "$key" _ rfl
    number := special "$iter" _ rfl
    length := special "$len" _ rfl
    first := fun list render origin spot span main bodies state => by
      have found : renderer.helpers.get? "first" =
          some (Helper.whenPlaced fun iteration => iteration.index = 0) :=
        helpers "first" (by simp)
      rw [renderPart, renderHelper_whenPlaced found placed]
    last := fun list render origin spot span main bodies state => by
      have found : renderer.helpers.get? "last" =
          some (Helper.whenPlaced fun iteration => iteration.index + 1 = iteration.length) :=
        helpers "last" (by simp)
      rw [renderPart, renderHelper_whenPlaced found placed]
    separator := fun counted render origin spot span main bodies state => by
      have found : renderer.helpers.get? "sep" = some Helper.separator := helpers "sep" (by simp)
      rw [renderPart, renderHelper_separator found placed counted]
      simp only [decide_eq_true_eq] }

end Renderer

end Dust
