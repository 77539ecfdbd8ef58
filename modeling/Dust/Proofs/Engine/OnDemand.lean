import Dust.Proofs.Engine.HelpersUsed
import Dust.Proofs.Render.Keeping
import Dust.Proofs.Render.Locating

/-!
# Loading on demand

Many calls of an engine load templates, and these are kept: a name that has led to a file may be
found in the store later on. Still the calls before cannot be told from what a name leads to, as
long as the files stay and no template is supplied from elsewhere.
-/

namespace Dust

/-- A call of an engine that may load templates. -/
inductive Request where
  /-- The template of a name is loaded. -/
  | load (name : String)
  /-- The file that a path leads to is compiled. -/
  | compileFile (path : String)
  /-- The template of a name is rendered. -/
  | render (name : String) (data : Value)
  /-- A template is rendered. -/
  | renderOutput (template : Template) (input : RenderInput)
  /-- The names of the helpers that the template of a name uses are gathered. -/
  | helpersUsed (name : String)
  /-- The probes of the templates of names are run. -/
  | prerun (names : List String)

namespace Engine

/-- The engine after a call, whatever the call has answered. -/
def after (engine : Engine) : Request → Engine
  | .load name => ((EngineM.load name).run engine).2
  | .compileFile path => ((EngineM.compileFile path).run engine).2
  | .render name data => ((EngineM.render name data).run engine).2
  | .renderOutput template input => ((EngineM.renderOutput template input).run engine).2
  | .helpersUsed name => ((EngineM.helpersUsed name).run engine).2
  | .prerun names => ((EngineM.prerun names).run engine).2

/-- The engine after some calls in a row. -/
def afterAll (engine : Engine) (requests : List Request) : Engine :=
  requests.foldl after engine

/-- The templates of an engine come from files alone. Its list of files tells what files there are,
if it has been made, and its helpers leave the store alone, except by what they render. -/
structure ReadsFiles (engine : Engine) : Prop where
  /-- No template is supplied. -/
  supplier : ∀ name, engine.sources.supplier name = none
  /-- Files have names. -/
  named : engine.sources.files.IsNamed
  /-- The files are listed as they are. -/
  lists : (engine.store.listing engine.sources).1 = engine.sources.templateFiles
  /-- Helpers load templates by what they render. -/
  helpers : ∀ name helper, engine.helpers.get? name = some helper → helper.LoadsByRendering

/-- An engine comes from another one by reading templates from files, and by running probes. -/
structure HasRead (engine later : Engine) : Prop where
  /-- The settings stay. -/
  settings : later = { engine with store := later.store, reports := later.reports }
  /-- Templates have been read from files. -/
  follows : engine.store.Follows engine.sources later.store

namespace HasRead

variable {engine between later : Engine}

/-- An engine comes from itself. -/
theorem refl (engine : Engine) : engine.HasRead engine :=
  ⟨rfl, .refl _ _⟩

/-- An engine may read more templates. -/
theorem trans (first : engine.HasRead between) (second : between.HasRead later) :
    engine.HasRead later where
  settings := by
    rw [second.settings, first.settings]
  follows := by
    have sources : between.sources = engine.sources := by rw [first.settings]
    exact first.follows.trans (sources ▸ second.follows)

/-- Templates still come from files alone. -/
theorem readsFiles (hasRead : engine.HasRead later) (reads : engine.ReadsFiles) :
    later.ReadsFiles := by
  have sources : later.sources = engine.sources := by rw [hasRead.settings]
  have helpers : later.helpers = engine.helpers := by rw [hasRead.settings]
  refine ⟨?_, ?_, ?_, ?_⟩
  · rw [sources]; exact reads.supplier
  · rw [sources]; exact reads.named
  · rw [sources]; exact hasRead.follows.listing.trans reads.lists
  · rw [helpers]; exact reads.helpers

end HasRead

end Engine

/-- A probe keeps what is known of the store while it reports. -/
theorem KeepsStore.report {kept : Store → Prop} {probe : RenderM Value}
    (keeps : KeepsStore kept probe) : KeepsStore kept (RenderM.report probe) := by
  have gathered : KeepsStore kept (RenderM.gatherPending probe) :=
    .bind (.untouched fun _ => rfl) fun _ => .bind (.untouched fun _ => rfl) fun _ =>
      .bind keeps fun _ => .untouched fun _ => rfl
  exact .bind gathered fun _ => .untouched fun _ => rfl

/-- Probes keep what is known of the store while they report in a row. -/
theorem KeepsStore.reportAll {kept : Store → Prop} {probes : List (RenderM Value)}
    (keep : ∀ probe ∈ probes, KeepsStore kept probe) :
    KeepsStore kept (RenderM.reportAll probes) := by
  induction probes with
  | nil => exact .untouched fun _ => rfl
  | cons probe rest induction =>
    have first : KeepsStore kept (RenderM.report probe) := (keep probe List.mem_cons_self).report
    exact .bind first fun _ => induction fun other mem => keep other (List.mem_cons_of_mem _ mem)

/-- The probes among some parts keep what is known of the store if rendering their bodies does. -/
theorem Renderer.reportAll_keepsStore {renderer : Renderer} {kept : Store → Prop}
    {render : BodyRender} {origin : Origin}
    (helpers : ∀ name helper, renderer.helpers.get? name = some helper → helper.LoadsByRendering)
    (renders : ∀ context body, KeepsStore kept (render origin context body)) (parts : List Part) :
    KeepsStore kept
      (RenderM.reportAll ((parts.filterMap (renderer.probe? render origin)).map Prod.snd)) := by
  refine .reportAll fun probe mem => ?_
  obtain ⟨entry, listed, rfl⟩ := List.mem_map.mp mem
  obtain ⟨part, -, found⟩ := List.mem_filterMap.mp listed
  unfold probe? at found
  split at found
  · split at found
    · rename_i run isProbe
      cases found
      exact (helpers _ _ isProbe _ _ renders).2 run rfl
    · cases found
  · cases found

/-- Bodies that are rendered by an engine read the templates that they include. -/
theorem Engine.ReadsFiles.renderBody {engine : Engine} (reads : engine.ReadsFiles)
    (input : RenderInput) (origin : Origin) (context : Context) (body : Body) :
    KeepsStore (engine.store.Follows engine.sources)
      ((engine.renderer input).renderBody engine.bound origin context body) := by
  refine Renderer.renderBody_keepsStore (fun store name base follows => ?_) reads.helpers _ _ _ _
  exact follows.trans
    (Store.load_follows reads.supplier (follows.listing.trans reads.lists) name base)

namespace EngineM

variable {α β : Type}

/-- A step of an engine only reads templates from files and runs probes, also when it fails. -/
def Reads (step : EngineM α) : Prop :=
  ∀ engine : Engine, engine.ReadsFiles → engine.HasRead (step.run engine).2

namespace Reads

/-- An answer without a step reads nothing. -/
theorem answer (answer : α) : Reads (pure answer) :=
  fun engine _ => .refl engine

/-- A failure reads nothing. -/
theorem failure (failure : Failure) : Reads (throw failure : EngineM α) :=
  fun engine _ => .refl engine

/-- What follows a step reads more. -/
theorem after {engine : Engine} (readsFiles : engine.ReadsFiles) {first : EngineM α}
    {next : α → EngineM β} (hasRead : engine.HasRead (first.run engine).2)
    (reads : ∀ value, Reads (next value)) : engine.HasRead ((first >>= next).run engine).2 := by
  change engine.HasRead (match first.run engine with
    | (result, later) =>
      (ExceptT.bindCont next result : StateM Engine (Except Failure β)) later).2
  rcases run : first.run engine with ⟨result, middle⟩
  rw [run] at hasRead
  cases result with
  | error failure => exact hasRead
  | ok value => exact hasRead.trans (reads value middle (hasRead.readsFiles readsFiles))

/-- Steps in a row read what each of them does. -/
theorem bind {first : EngineM α} {next : α → EngineM β} (reads : Reads first)
    (more : ∀ value, Reads (next value)) : Reads (first >>= next) :=
  fun engine readsFiles => after readsFiles (reads engine readsFiles) more

/-- A step that looks at the engine reads what it does on this engine. -/
theorem ofEngine {next : Engine → EngineM β}
    (reads : ∀ engine : Engine, engine.ReadsFiles → engine.HasRead ((next engine).run engine).2) :
    Reads (get >>= next) :=
  reads

/-- Steps for the elements of a list read what each of them does. -/
theorem foldlM {step : β → α → EngineM β} (reads : ∀ value element, Reads (step value element))
    (value : β) (list : List α) : Reads (list.foldlM step value) := by
  induction list generalizing value with
  | nil => exact .answer value
  | cons element rest induction =>
    rw [List.foldlM_cons]
    exact .bind (reads value element) fun next => induction next

/-- A step of the store reads what it adds to the store. -/
theorem onStore {step : Sources → Store → Except Error α × Store}
    (follows : ∀ engine : Engine, engine.ReadsFiles →
      engine.store.Follows engine.sources (step engine.sources engine.store).2) :
    Reads (onStore step) := by
  intro engine reads
  rw [onStore_run]
  exact ⟨rfl, follows engine reads⟩

/-- Loading a template reads a file at most. -/
theorem loadFrom (base : Option FilePath) (name : String) : Reads (loadFrom base name) :=
  onStore fun _ reads => Store.load_follows reads.supplier reads.lists name base

/-- Compiling a file reads it at most. -/
theorem compileFile (path : String) : Reads (compileFile path) :=
  onStore fun _ reads => Store.loadLocated_follows reads.lists path none

/-- A render reads the templates that it loads. -/
theorem onRender {engine : Engine} (root : Value) {step : RenderM α}
    (keeps : KeepsStore (engine.store.Follows engine.sources) step) :
    engine.HasRead ((onRender root step).run engine).2 := by
  have follows := keeps { root, store := engine.store, reports := engine.reports } (.refl _ _)
  rw [onRender_run]
  rcases run : step.runFrom { root, store := engine.store, reports := engine.reports } with
    ⟨result, later⟩
  rw [run] at follows
  cases result <;> exact ⟨rfl, follows⟩

/-- Rendering a template reads the templates that it includes. -/
theorem renderOutput (template : Template) (input : RenderInput) :
    Reads (renderOutput template input) := by
  refine ofEngine fun engine reads => after reads ?_ fun answer => .answer answer.2
  exact onRender input.data.withFiniteFloats
    (reads.renderBody input ⟨template, 0⟩ [.blocks template.blocks] template.body)

/-- Rendering the template of a name reads it and those that it includes. -/
theorem render (name : String) (data : Value) : Reads (render name data) := by
  refine .bind (loadFrom none name) fun found => ?_
  cases found with
  | none => exact .failure _
  | some template =>
    refine .bind (renderOutput template { data }) fun output => ?_
    unfold textOf
    split
    · exact .failure _
    · exact .answer _

/-- Running the probes of a template reads the templates that their bodies include. -/
theorem runProbes (template : Template) : Reads (runProbes template) := by
  refine ofEngine fun engine reads => after reads (onRender .null ?_) fun _ => .answer _
  exact Renderer.reportAll_keepsStore reads.helpers
    (reads.renderBody { data := .null } ⟨template, 0⟩) template.allParts

/-- Visiting templates reads them, and what gathering from them reads. -/
theorem visit {run : Template → EngineM (List String)} (reads : ∀ template, Reads (run template))
    (bound : Nat) (base : Option FilePath) (survey : Survey) (name : String) :
    Reads (visit run bound base survey name) := by
  induction bound generalizing base survey name with
  | zero => exact .failure _
  | succ bound induction =>
    unfold EngineM.visit
    split
    · exact .answer _
    · refine .bind (loadFrom base name) fun found => ?_
      cases found with
      | none => exact .answer _
      | some template =>
        exact .bind (reads template) fun names =>
          .foldlM (fun survey name => induction _ survey name) _ _

/-- A survey reads the templates that it visits, and what gathering from them reads. -/
theorem visitAll {run : Template → EngineM (List String)} (reads : ∀ template, Reads (run template))
    (names : List String) : Reads (visitAll run names) := by
  refine ofEngine fun engine readsFiles => ?_
  have visits := foldlM (fun survey name => visit reads engine.bound none survey name) {} names
  exact after readsFiles (visits engine readsFiles) fun survey => .answer survey.gathered

end Reads

end EngineM

namespace Engine

/-- A call reads templates from files and runs probes. -/
theorem ReadsFiles.after {engine : Engine} (reads : engine.ReadsFiles) (request : Request) :
    engine.HasRead (engine.after request) := by
  cases request with
  | load name => exact EngineM.Reads.loadFrom none name engine reads
  | compileFile path => exact EngineM.Reads.compileFile path engine reads
  | render name data => exact EngineM.Reads.render name data engine reads
  | renderOutput template input => exact EngineM.Reads.renderOutput template input engine reads
  | helpersUsed name =>
    exact EngineM.Reads.visitAll (fun template => .answer template.helperNames) [name] engine reads
  | prerun names => exact EngineM.Reads.visitAll EngineM.Reads.runProbes names engine reads

/-- Calls in a row read templates from files and run probes. -/
theorem ReadsFiles.afterAll {engine : Engine} (reads : engine.ReadsFiles)
    (requests : List Request) : engine.HasRead (engine.afterAll requests) := by
  induction requests generalizing engine with
  | nil => exact .refl engine
  | cons request rest induction =>
    have first := reads.after request
    exact first.trans (induction (first.readsFiles reads))

/-- Whatever calls an engine has answered, it keeps its settings and all templates that it knew
before, and a name leads to the same template, to none, or to the same error, as if there had been
no calls. -/
theorem afterAll_unseen (engine : Engine) (reads : engine.ReadsFiles) (requests : List Request) :
    let later := engine.afterAll requests
    later = { engine with store := later.store, reports := later.reports } ∧
    (∀ name template, engine.get? name = some template → later.get? name = some template) ∧
    ∀ name, ((EngineM.load name).run later).1 = ((EngineM.load name).run engine).1 := by
  intro later
  have hasRead : engine.HasRead later := reads.afterAll requests
  refine ⟨hasRead.settings, fun name template known => ?_, fun name => ?_⟩
  · rcases hasRead.follows.names name with same | ⟨absent, -⟩
    · exact same.trans known
    · cases absent.symm.trans known
  · have sources : later.sources = engine.sources := by rw [hasRead.settings]
    have same := hasRead.follows.load reads.supplier reads.named name none
    simp only [EngineM.load, EngineM.loadFrom, EngineM.onStore_run, sources, same]

/-- Calls that load the templates of two directories. -/
def visits : List Request :=
  [.render "pages/page" .null, .compileFile "/layouts/menu.dust", .helpersUsed "pages/page",
    .prerun ["layouts/base", "nothing"]]

example : (website.after (.render "pages/page" .null)).store.templates.keys =
    ["/layouts/base.dust", "/layouts/menu.dust", "/pages/page.dust"] := by
  decide +kernel

/-- Templates of two directories are loaded. -/
theorem afterAll_unseen_website :
    website.ReadsFiles ∧
    (website.afterAll visits).get? "/layouts/base.dust" = some layout ∧
    ∀ name, ((EngineM.load name).run (website.afterAll visits)).1 =
      ((EngineM.load name).run website).1 := by
  have reads : website.ReadsFiles :=
    { supplier := fun _ => rfl
      named := by decide +kernel
      lists := rfl
      helpers := fun _ _ found => Helper.loadsByRendering_of_builtin (Dict.mem_of_get? found) }
  obtain ⟨-, kept, same⟩ := afterAll_unseen website reads visits
  exact ⟨reads, kept _ _ rfl, same⟩

end Engine

end Dust
