import Dust.Proofs.Engine.HelpersUsed

/-!
# Renders see only the data that templates name

A path that begins with a name asks the data for this name, and all that follows is asked of what it
has found, also where keys are values of other paths. So a render in which all paths begin with
names and the helpers look at the data only by paths does not depend on what the data hold under
other names.
-/

namespace Dust

/-! ### Values -/

namespace Value

/-- Two values hold the same under some names. -/
def AgreesOn (names : List String) (value other : Value) : Prop :=
  ∀ name ∈ names, other.get? name = value.get? name

/-- The items of a list with finite floats. -/
theorem withFiniteItems_eq_map (items : List Value) :
    withFiniteItems items = items.map withFiniteFloats := by
  induction items with
  | nil => rfl
  | cons item rest induction => rw [withFiniteItems, induction, List.map_cons]

/-- The entry of a dictionary with finite floats. -/
theorem get?_withFiniteEntries (entries : Dict Value) (name : String) :
    Dict.get? (withFiniteEntries entries) name = (entries.get? name).map withFiniteFloats := by
  induction entries with
  | nil => rfl
  | cons entry rest induction =>
    obtain ⟨other, value⟩ := entry
    simp only [withFiniteEntries, Dict.get?, induction]
    split <;> rfl

/-- What a value holds under a name with finite floats. -/
theorem get?_withFiniteFloats (value : Value) (name : String) :
    value.withFiniteFloats.get? name = (value.get? name).map withFiniteFloats := by
  cases value with
  | float x =>
    rw [withFiniteFloats]
    split <;> rfl
  | list items =>
    simp only [withFiniteFloats, get?, withFiniteItems_eq_map]
    cases Number.readIndex? name.toList with
    | none => rfl
    | some index => exact List.getElem?_map ..
  | map entries => exact get?_withFiniteEntries entries name
  | _ => rfl

/-- Values with finite floats hold the same under names under which the values do. -/
theorem AgreesOn.withFiniteFloats {names : List String} {value other : Value}
    (agrees : value.AgreesOn names other) :
    value.withFiniteFloats.AgreesOn names other.withFiniteFloats := by
  intro name mem
  rw [get?_withFiniteFloats, get?_withFiniteFloats, agrees name mem]

end Value

/-! ### Paths -/

mutual

/-- A path begins with one of some names, and so do all paths among its keys. -/
def Path.BeginsIn (names : List String) : Path → Prop
  | ⟨_, keys, _⟩ => (∃ name ∈ names, keys.head? = some (.name name)) ∧ Path.KeysBeginIn names keys

/-- The path that a key is, if it is one, begins with one of some names. -/
def Key.BeginsIn (names : List String) : Key → Prop
  | .path path => path.BeginsIn names
  | _ => True

/-- All paths among keys begin with one of some names. -/
def Path.KeysBeginIn (names : List String) : List Key → Prop
  | [] => True
  | key :: rest => key.BeginsIn names ∧ Path.KeysBeginIn names rest

end

namespace Context

variable {names : List String} {root other : Value}

/-- Where a name is searched for does not depend on other names in the data. -/
theorem find?_of_agrees (agrees : root.AgreesOn names other) (context : Context) (globals : Value)
    {name : String} (mem : name ∈ names) :
    context.find? ⟨other, globals⟩ (.name name) = context.find? ⟨root, globals⟩ (.name name) := by
  simp only [find?, search?, Value.follow?, agrees name mem]

/-- What the current value holds under a name does not depend on other names in the data. -/
theorem current_follow?_of_agrees (agrees : root.AgreesOn names other) (context : Context)
    (globals : Value) {name : String} (mem : name ∈ names) :
    (context.current ⟨other, globals⟩).follow? (.name name) =
      (context.current ⟨root, globals⟩).follow? (.name name) := by
  unfold current
  cases context.findSome? Frame.value? with
  | none => exact agrees name mem
  | some value => rfl

mutual

/-- What a path leads to does not depend on names in the data that the path does not begin with. -/
theorem get?_of_agrees (agrees : root.AgreesOn names other) (context : Context) (globals : Value)
    (path : Path) (begins : path.BeginsIn names) :
    context.get? ⟨other, globals⟩ path = context.get? ⟨root, globals⟩ path := by
  match path, begins with
  | ⟨anchor, [], _⟩, ⟨⟨_, _, first⟩, _⟩ => cases first
  | ⟨anchor, first :: rest, _⟩, ⟨⟨name, mem, isFirst⟩, keys⟩ =>
    cases isFirst
    have found := find?_of_agrees agrees context globals mem
    have current := current_follow?_of_agrees agrees context globals mem
    have follows (value : Value) := followKeys?_of_agrees agrees context globals rest keys.2 value
    cases anchor <;> simp [get?, toStep?, found, current, follows]

/-- The step that a key stands for does not depend on names in the data that no path in it begins
with. -/
theorem toStep?_of_agrees (agrees : root.AgreesOn names other) (context : Context) (globals : Value)
    (key : Key) (begins : key.BeginsIn names) :
    context.toStep? ⟨other, globals⟩ key = context.toStep? ⟨root, globals⟩ key := by
  match key, begins with
  | .name _, _ | .index _, _ => rfl
  | .path path, begins =>
    rw [toStep?, toStep?, get?_of_agrees agrees context globals path begins]

/-- What keys lead to does not depend on names in the data that no path in them begins with. -/
theorem followKeys?_of_agrees (agrees : root.AgreesOn names other) (context : Context)
    (globals : Value) (keys : List Key) (begins : Path.KeysBeginIn names keys) (value : Value) :
    context.followKeys? ⟨other, globals⟩ value keys =
      context.followKeys? ⟨root, globals⟩ value keys := by
  match keys, begins with
  | [], _ => rfl
  | key :: rest, ⟨keyBegins, restBegins⟩ =>
    have step := toStep?_of_agrees agrees context globals key keyBegins
    have follows (inner : Value) :=
      followKeys?_of_agrees agrees context globals rest restBegins inner
    simp only [followKeys?, step, follows]

end

end Context

/-! ### Steps -/

/-- What a step does is the same for all data that hold the same under some names, and it leaves the
data as they are. The store comes from another one by loading templates, before and after. -/
def ReadsOnly (names : List String) (sources : Sources) (store : Store) {α : Type}
    (step : RenderM α) : Prop :=
  ∀ state other, store.Evolves sources state.store → state.root.AgreesOn names other →
    ∃ result later, step.runFrom state = (result, later) ∧
      step.runFrom { state with root := other } = (result, { later with root := other }) ∧
      later.root = state.root ∧ store.Evolves sources later.store

namespace ReadsOnly

variable {names : List String} {sources : Sources} {store : Store} {α β : Type}

/-- Steps in a row read only what each of them does. -/
theorem bind {first : RenderM α} {next : α → RenderM β}
    (reads : ReadsOnly names sources store first)
    (after : ∀ value, ReadsOnly names sources store (next value)) :
    ReadsOnly names sources store (first >>= next) := by
  intro state other evolves agrees
  obtain ⟨result, middle, run, same, root, evolves⟩ := reads state other evolves agrees
  rw [RenderM.runFrom_bind, RenderM.runFrom_bind, run, same]
  cases result with
  | error halt => exact ⟨_, _, rfl, rfl, root, evolves⟩
  | ok value =>
    obtain ⟨result, later, run, same, kept, evolves⟩ :=
      after value middle other evolves (root.symm ▸ agrees)
    exact ⟨result, later, run, same, kept.trans root, evolves⟩

/-- A body reads the same with an output of its own. -/
theorem apart {wrapped : RenderM α} {step : RenderM Unit} {value : Output → α}
    {shown : Output → Output} {aside : Output → Option Error}
    (runs : RenderM.RunsApart wrapped step value shown aside)
    (reads : ReadsOnly names sources store step) : ReadsOnly names sources store wrapped := by
  intro state other evolves agrees
  obtain ⟨result, later, run, same, root, evolves⟩ :=
    reads { state with output := {} } other evolves agrees
  rw [runs, runs, run, same]
  cases result <;> exact ⟨_, _, rfl, rfl, root, evolves⟩

/-- A step reads the same while errors are gathered. -/
theorem gathered {step : RenderM α} (reads : ReadsOnly names sources store step) :
    ReadsOnly names sources store (RenderM.gathered step) := by
  intro state other evolves agrees
  obtain ⟨result, later, run, same, root, evolves⟩ :=
    reads { state with pending := none } other evolves agrees
  rw [RenderM.runFrom_gathered, RenderM.runFrom_gathered, run, same]
  cases result <;> exact ⟨_, _, rfl, rfl, root, evolves⟩

/-- The elementary steps that leave the data alone read none of them. -/
theorem flowLaw (names : List String) (sources : Sources) (store : Store) :
    FlowLaw fun step _ => ReadsOnly names sources store step where
  pure _ _ _ evolves _ := ⟨_, _, rfl, rfl, rfl, evolves⟩
  bind := .bind
  overflow _ _ evolves _ := ⟨_, _, rfl, rfl, rfl, evolves⟩
  readFlags _ _ _ evolves _ := ⟨_, _, rfl, rfl, rfl, evolves⟩
  changeFlags _ _ _ evolves _ := ⟨_, _, rfl, rfl, rfl, evolves⟩
  write _ _ _ evolves _ := ⟨_, _, rfl, rfl, rfl, evolves⟩

/-- Raising an error reads no data. -/
theorem raise (origin : Origin) (error : Error) (span : Span) :
    ReadsOnly names sources store (origin.noteError error span) :=
  fun _ _ evolves _ => ⟨_, _, rfl, rfl, rfl, evolves⟩

/-- The steps of the evaluator that leave the data alone read none of them. -/
theorem renderFlowLaw (names : List String) (sources : Sources) (store : Store) :
    RenderFlowLaw sources (store.Loadable sources)
      (fun step _ => ReadsOnly names sources store step)
      (fun step _ => ReadsOnly names sources store step)
      (fun step _ => ReadsOnly names sources store step) :=
  have output : OutputLaw sources (store.Loadable sources)
      fun step _ => ReadsOnly names sources store step :=
    { apart := fun runs _ => .apart runs
      gathered := .gathered
      loaded := by
        intro name base next _ after state other evolves agrees
        rw [RenderM.runFrom_bind, RenderM.runFrom_bind, RenderM.runFrom_withStore,
          RenderM.runFrom_withStore]
        exact after _ (fun template loaded => ⟨state.store, evolves, loaded⟩)
          { state with store := (state.store.load sources name base).2 } other
          (evolves.tail ⟨name, base, rfl⟩) agrees
      raise := .raise }
  output.renderFlowLaw (flowLaw names sources store).toCalmLaw

/-- Looking up a path reads what the data hold under the names that paths in it begin with. -/
theorem lookUp (renderer : Renderer) (context : Context) {path : Path}
    (begins : path.BeginsIn names) :
    ReadsOnly names sources store (renderer.lookUp context path) := by
  intro state other evolves agrees
  have same := Context.get?_of_agrees agrees context renderer.globals path begins
  refine ⟨.ok (context.get? ⟨state.root, renderer.globals⟩ path), state, rfl, ?_, rfl, evolves⟩
  rw [← same]
  rfl

end ReadsOnly

/-! ### Templates -/

/-- All paths that a part looks up begin with one of some names, and if it calls a helper, it calls
one that looks at the data only by such paths. -/
def Part.NamesData (names : List String) (part : Part) : Prop :=
  (∀ path, part.LooksUp path → path.BeginsIn names) ∧
    ∀ helper, Template.helperName? part = some helper → helper ∈ Helper.pathBound

/-- All data that are looked up are named. -/
def namedData (names : List String) : Demand where
  part part := part.NamesData names

namespace Renderer

variable {names : List String} {renderer : Renderer} {store : Store}

/-- A call of a helper reads only what is named if rendering all sites that are entered does. -/
theorem renderHelper_readsOnly
    (helpers : ∀ name ∈ Helper.pathBound, renderer.helpers.get? name = Helper.builtins.get? name)
    {render : BodyRender} {site : Site}
    (entered : ∀ inner, site.Enters renderer.maxDepth (store.Loadable renderer.sources) inner →
      ReadsOnly names renderer.sources store (render inner.origin inner.context inner.body))
    (looks : ∀ part ∈ site.body, ∀ path, part.LooksUp path → path.BeginsIn names)
    {name : Identifier} {list : List Param} {main : Option Body} {bodies : Dict Body} {span : Span}
    (mem : Part.element (.helper name) list main bodies span ∈ site.body)
    (isBound : name.name ∈ Helper.pathBound) :
    ReadsOnly names renderer.sources store
      (renderer.renderHelper render site.origin site.context name list main bodies span) := by
  have law := ReadsOnly.renderFlowLaw names renderer.sources store
  refine @RenderFlowLaw.renderCall renderer _ _ _ _ law render render site.origin site.context name
    list main bodies span fun helper found => ?_
  have builtin : (name.name, helper) ∈ Helper.builtins :=
    Dict.mem_of_get? (helpers _ isBound ▸ found)
  let call : Call := { renderer.params render site.origin site.context list with
    main, bodies, filters := renderer.filters }
  have resolves := @RenderFlowLaw.partParam renderer _ _ _ _ law render render site entered
    (fun part mem path looksUp => ⟨.lookUp renderer _ (looks part mem path looksUp),
      .lookUp renderer _ (looks part mem path looksUp)⟩) _ mem list (fun _ => id)
    fun param isParam path isPath => .inr ⟨param, isParam, isPath⟩
  exact @FlowLaw.pathBound_run _ (ReadsOnly.flowLaw names renderer.sources store) call
    (render site.origin) resolves
    (fun frames body plain holds =>
      entered _ (.nested frames mem (@Call.Holds.nests call body holds _ _ _) plain))
    _ _ isBound builtin

/-- Rendering a site reads only what is named if rendering all sites that are entered does. -/
theorem renderParts_readsOnly
    (helpers : ∀ name ∈ Helper.pathBound, renderer.helpers.get? name = Helper.builtins.get? name)
    {render : BodyRender} {site : Site}
    (entered : ∀ inner, site.Enters renderer.maxDepth (store.Loadable renderer.sources) inner →
      ReadsOnly names renderer.sources store (render inner.origin inner.context inner.body))
    (named : ∀ part ∈ site.body, part.NamesData names) :
    ReadsOnly names renderer.sources store
      (renderer.renderParts render site.origin site.context site.body) := by
  have law := ReadsOnly.renderFlowLaw names renderer.sources store
  have looks (part : Part) (mem : part ∈ site.body) (path : Path) (looksUp : part.LooksUp path) :
      ReadsOnly names renderer.sources store (renderer.lookUp site.context path) :=
    .lookUp renderer _ ((named part mem).1 path looksUp)
  refine @CalmLaw.partByPart _ law.toCalmLaw renderer renderer render render site.origin
    site.origin site.context site.body fun part mem => ?_
  refine @RenderFlowLaw.renderPart renderer _ _ _ _ law render render site entered
    (fun part mem path looksUp => ⟨looks part mem path looksUp, looks part mem path looksUp⟩)
    part mem fun name list main bodies span same => ?_
  subst same
  exact renderHelper_readsOnly helpers entered (fun part mem => (named part mem).1) mem
    ((named _ mem).2 _ rfl)

/-- Rendering a template reads only what is named in the templates that may be rendered. -/
theorem renderTemplate_readsOnly
    (helpers : ∀ name ∈ Helper.pathBound, renderer.helpers.get? name = Helper.builtins.get? name)
    {template : Template}
    (named : ∀ known, Site.Knows (store.Loadable renderer.sources) template known →
      known.Meets (namedData names)) (bound : Nat) :
    ReadsOnly names renderer.sources store (renderer.renderTemplate bound template) := by
  have sites (bound : Nat) (site : Site)
      (reached : template.site.Reaches renderer.maxDepth (store.Loadable renderer.sources) site) :
      ReadsOnly names renderer.sources store
        (renderer.renderBody bound site.origin site.context site.body) := by
    induction bound generalizing site with
    | zero => exact fun _ _ evolves _ => ⟨_, _, rfl, rfl, rfl, evolves⟩
    | succ bound induction =>
      obtain ⟨⟨owner, written⟩, -⟩ := Site.Reaches.exists_isWrittenIn reached
      have meets := written.holds.meets (named owner written.known)
      have entered inner enters := induction inner (reached.tail enters)
      exact renderParts_readsOnly helpers entered fun part mem =>
        (Part.allMeet_iff.mp meets part mem).part
  exact sites bound template.site .refl

end Renderer

/-- A render depends on the data only by what they hold under the names with which the paths in all
templates begin: for other data that hold the same under these names the text, the error and all
else are the same. Nothing is loaded from elsewhere, and only helpers are called that look at the
data by paths. -/
theorem EngineM.renderOutput_reads_named (engine : Engine) (template : Template)
    (names : List String) (closed : engine.store.IsClosed engine.sources)
    (helpers : ∀ name ∈ Helper.pathBound, engine.helpers.get? name = Helper.builtins.get? name)
    (named : ∀ known ∈ template :: engine.store.templates.values, known.Meets (namedData names))
    (input : RenderInput) (other : Value) (agrees : input.data.AgreesOn names other) :
    (renderOutput template { input with data := other }).run engine =
      (renderOutput template input).run engine := by
  have known (inner : Template)
      (knows : Site.Knows (engine.store.Loadable engine.sources) template inner) :
      inner.Meets (namedData names) := by
    refine named inner ?_
    rcases knows with rfl | ⟨name, base, loadable⟩
    · exact List.mem_cons_self
    · have found := closed.get?_of_loadable loadable
      exact List.mem_cons_of_mem _ (List.mem_map.mpr ⟨(name, inner), Dict.mem_of_get? found, rfl⟩)
  have reads := @Renderer.renderTemplate_readsOnly names (engine.renderer input) engine.store
    helpers template known engine.bound
  obtain ⟨result, later, run, same, -, -⟩ := reads (engine.startState input)
    other.withFiniteFloats .refl agrees.withFiniteFloats
  have ofOther : ((engine.renderer { input with data := other }).renderTemplate engine.bound
      template).runFrom (engine.startState { input with data := other }) =
      (result, { later with root := other.withFiniteFloats }) := same
  rw [renderOutput_run_eq, renderOutput_run_eq, run, ofOther]
  cases result <;> rfl

/-- The template of this source includes another one for each row. -/
def rowsTable : Template where
  source := "\x7b#rows\x7d\x7b>cell/\x7d\x7b@sep\x7d,\x7b/sep\x7d\x7b/rows\x7d"
  body :=
    [.element (.test .iterate ⟨.relative, [.name "rows"], ⟨2, 6⟩⟩) []
      (some
        [.inclusion (.static "cell") none [] ⟨7, 15⟩,
          .element (.helper ⟨"sep", ⟨17, 20⟩⟩) [] (some [.text ","]) [] ⟨15, 28⟩])
      [] ⟨0, 35⟩]
  blocks := []
  path := none

/-- The template of this source looks up a key that is computed from the data. -/
def keyedCell : Template where
  source := "{@if cond=key}{table[key]}{/if}"
  body :=
    [.element (.helper ⟨"if", ⟨2, 4⟩⟩)
      [⟨⟨"cond", ⟨5, 9⟩⟩, .path ⟨.relative, [.name "key"], ⟨10, 13⟩⟩⟩]
      (some
        [.reference ⟨.relative,
          [.name "table", .path ⟨.relative, [.name "key"], ⟨21, 24⟩⟩], ⟨15, 25⟩⟩ [] ⟨14, 26⟩])
      [] ⟨0, 31⟩]
  blocks := []
  path := none

/-- Data with a row that asks for the name under which the data hold something besides. -/
def secretive (secret : String) : Value :=
  .map
    [("rows", .list [.map [("key", .string "a")], .map [("key", .string "secret")]]),
      ("secret", .string secret), ("table", .map [("a", .integer 1), ("secret", .integer 2)])]

example : [rowsTable, keyedCell].all (fun template =>
    (Template.compile .preserve template.source).toOption == some template) = true := by
  decide +kernel

/-- What is held under a name that no path begins with is not seen, also if a key is computed that
is the same name. -/
theorem EngineM.renderOutput_reads_named_rows :
    let engine := engineOf [("cell", keyedCell), ("rows", rowsTable)]
    engine.store.IsClosed engine.sources ∧
    (∀ known ∈ rowsTable :: engine.store.templates.values,
      known.Meets (namedData ["key", "rows", "table"])) ∧
    (secretive "one").AgreesOn ["key", "rows", "table"] (secretive "other") ∧
    (renderOutput rowsTable { data := secretive "other" }).run engine =
      (renderOutput rowsTable { data := secretive "one" }).run engine ∧
    ((renderOutput rowsTable { data := secretive "one" }).run engine).1.toOption.map
      (fun output => output.text) = some "1,2" := by
  intro engine
  have closed : engine.store.IsClosed engine.sources := isClosed_engineOf _
  have named : ∀ known ∈ rowsTable :: engine.store.templates.values,
      known.Meets (namedData ["key", "rows", "table"]) := by
    simp [engine, engineOf, Dict.values, Template.meets_iff, rowsTable, keyedCell, namedData,
      Part.NamesData, Part.LooksUp, Path.BeginsIn, Path.KeysBeginIn, Key.BeginsIn,
      Template.helperName?, Helper.pathBound, Part.AllMeet, Part.Meets, Part.ParamsMeet,
      Part.MainMeets, Part.BodiesMeet, Param.Meets, Argument.Meets, Path.Meets, Path.KeysMeet,
      Key.Meets, Head.Meets, Target.Meets]
  have agrees : (secretive "one").AgreesOn ["key", "rows", "table"] (secretive "other") := by
    simp [Value.AgreesOn, secretive, Value.get?, Dict.get?]
  refine ⟨closed, named, agrees, ?_, ?_⟩
  · exact EngineM.renderOutput_reads_named engine rowsTable _ closed (fun _ _ => rfl) named
      { data := secretive "one" } _ agrees
  · decide +kernel

end Dust
