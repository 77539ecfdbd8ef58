import Dust.Proofs.Render.EvaluateLaw
import Dust.Proofs.Render.Insertion
import Dust.Proofs.Render.Run

/-!
# Renders end

A render goes from a body to one that is smaller, or to an inline partial of lower rank, or to an
included template, and the number of inclusions in each other is limited. So a number of bodies that
are nested in each other is enough for all data, if no inline partial leads back to itself and no
template is loaded that is not known before the render.
-/

namespace Dust

/-- There are no templates to be had beyond those in the store. -/
structure Sources.IsEmpty (sources : Sources) : Prop where
  /-- No template is supplied. -/
  supplier : ∀ name, sources.supplier name = none
  /-- No file can be read. -/
  files : ∀ path, sources.files.read? path = none

namespace Store

variable {sources : Sources} (isEmpty : sources.IsEmpty) (store : Store)

include isEmpty

/-- Without files the store keeps its templates. Only they are found. -/
theorem loadFile_of_isEmpty (path : String) :
    (store.loadFile sources path).2 = store ∧
      ∀ template, (store.loadFile sources path).1 = .ok template →
        store.get? path = some template := by
  unfold Store.loadFile
  cases found : store.get? path with
  | some known => exact ⟨rfl, fun template same => by cases same; rfl⟩
  | none => simp [readText, isEmpty.files]

/-- Without files and a supplier the store keeps its templates. Only they are found. -/
theorem load_of_isEmpty (name : String) (base : Option FilePath) :
    (store.load sources name base).2.templates = store.templates ∧
      ∀ template, (store.load sources name base).1 = .ok (some template) →
        ∃ known, store.get? known = some template := by
  unfold Store.load
  cases found : store.get? name with
  | some known =>
    refine ⟨rfl, fun template same => ⟨name, ?_⟩⟩
    cases same
    exact found
  | none =>
    simp only [isEmpty.supplier, Store.loadLocated]
    have located := Store.locate_templates sources store name base
    rcases run : store.locate sources name base with ⟨path, later⟩
    rw [run] at located
    cases path with
    | none => exact ⟨located, fun template same => by cases same⟩
    | some path =>
      obtain ⟨kept, known⟩ := loadFile_of_isEmpty isEmpty later path
      refine ⟨(congrArg Store.templates kept).trans located, fun template same => ⟨path, ?_⟩⟩
      have same_some : (later.loadFile sources path).1.map some = .ok (some template) := same
      cases loaded : (later.loadFile sources path).1 with
      | error error =>
        rw [loaded] at same_some
        cases same_some
      | ok found =>
        rw [loaded] at same_some
        cases same_some
        have isKnown := known template loaded
        unfold Store.get? at isKnown ⊢
        rwa [located] at isKnown

end Store

/-- A step ends with a result from every store of some templates, and another step ends the same
way. The templates stay. -/
def EndsAlike (templates : Dict Template) : StepRel := fun step step' =>
  ∀ state, state.store.templates = templates →
    step.runFrom state = step'.runFrom state ∧
    (step.runFrom state).1 ≠ .error .exhausted ∧
    (step.runFrom state).2.store.templates = templates

namespace EndsAlike

variable {templates : Dict Template} {α β : Type}

/-- Steps that end alike in a row end alike. -/
theorem bind {first first' : RenderM α} {next next' : α → RenderM β}
    (alike : EndsAlike templates first first')
    (after : ∀ value, EndsAlike templates (next value) (next' value)) :
    EndsAlike templates (first >>= next) (first' >>= next') := by
  intro state same
  obtain ⟨equal, ends, kept⟩ := alike state same
  rw [RenderM.runFrom_bind, RenderM.runFrom_bind, ← equal]
  rcases run : first.runFrom state with ⟨result, later⟩
  rw [run] at ends kept
  cases result with
  | error halt => exact ⟨rfl, by simpa using ends, kept⟩
  | ok value => exact after value later kept

/-- A body with an output of its own ends. -/
theorem apart {wrapped wrapped' : RenderM α} {step step' : RenderM Unit} {value : Output → α}
    {shown : Output → Output} {aside : Output → Option Error}
    (runs : RenderM.RunsApart wrapped step value shown aside)
    (runs' : RenderM.RunsApart wrapped' step' value shown aside)
    (alike : EndsAlike templates step step') : EndsAlike templates wrapped wrapped' := by
  intro state same
  obtain ⟨equal, ends, kept⟩ := alike { state with output := {} } same
  rw [runs, runs', ← equal]
  rcases run : step.runFrom { state with output := {} } with ⟨result, later⟩
  rw [run] at ends kept
  cases result with
  | error halt => exact ⟨rfl, by simpa using ends, kept⟩
  | ok value => exact ⟨rfl, by simp, kept⟩

/-- A step ends while errors are gathered. -/
theorem gathered {step step' : RenderM α} (alike : EndsAlike templates step step') :
    EndsAlike templates (RenderM.gathered step) (RenderM.gathered step') := by
  intro state same
  obtain ⟨equal, ends, kept⟩ := alike { state with pending := none } same
  rw [RenderM.runFrom_gathered, RenderM.runFrom_gathered, ← equal]
  rcases run : step.runFrom { state with pending := none } with ⟨result, later⟩
  rw [run] at ends kept
  cases result with
  | error halt => exact ⟨rfl, by simpa using ends, kept⟩
  | ok value => exact ⟨rfl, by simp, kept⟩

/-- All steps of the evaluator end. Only templates of the store are loaded. -/
theorem renderLaw {sources : Sources} (isEmpty : sources.IsEmpty) (templates : Dict Template) :
    RenderLaw sources (fun _ _ template => template ∈ templates.values)
      (EndsAlike templates) (EndsAlike templates) (EndsAlike templates) := by
  have self {α : Type} {step : RenderM α} (ends : ∀ state,
      (step.runFrom state).1 ≠ .error .exhausted ∧
        (step.runFrom state).2.store = state.store) : EndsAlike templates step step := by
    intro state same
    obtain ⟨ends, kept⟩ := ends state
    exact ⟨rfl, ends, by rw [kept, same]⟩
  have steps : StepLaw (EndsAlike templates) :=
    { pure := fun _ => self fun _ => ⟨by simp, rfl⟩
      bind := .bind
      overflow := self fun _ => ⟨by simp, rfl⟩
      read := fun _ => self fun _ => ⟨fun same => (by cases same), rfl⟩
      change := fun _ => self fun _ => ⟨by simp, rfl⟩
      write := fun _ => self fun _ => ⟨by simp, rfl⟩ }
  have loaded {name : String} {base : Option FilePath}
      {next next' : Except Error (Option Template) → RenderM Unit}
      (after : ∀ result,
        (∀ template, result = .ok (some template) → template ∈ templates.values) →
        EndsAlike templates (next result) (next' result)) :
      EndsAlike templates
        (RenderM.withStore (fun store => store.load sources name base) >>= next)
        (RenderM.withStore (fun store => store.load sources name base) >>= next') := by
    intro state same
    obtain ⟨kept, known⟩ := state.store.load_of_isEmpty isEmpty name base
    rw [RenderM.runFrom_bind, RenderM.runFrom_bind, RenderM.runFrom_withStore]
    refine after _ (fun template loaded => ?_)
      { state with store := (state.store.load sources name base).2 } (kept.trans same)
    obtain ⟨registered, found⟩ := known template loaded
    rw [← same]
    exact List.mem_map.mpr ⟨(registered, template), Dict.mem_of_get? found, rfl⟩
  have output : OutputLaw sources (fun _ _ template => template ∈ templates.values)
      (EndsAlike templates) :=
    { apart := .apart
      gathered := .gathered
      loaded
      raise := fun _ _ _ => self fun _ => ⟨by simp [Origin.noteError], rfl⟩ }
  exact output.renderLaw steps

end EndsAlike

/-- The inline partials around a site are those of some templates, and those that may be rendered in
place of its blocks are below a rank. -/
structure Site.Within (templates : List Template) (rank : Nat) (site : Site) : Prop where
  /-- The inline partials around are those of templates. -/
  frames : ∀ blocks, Frame.blocks blocks ∈ site.context →
    ∃ template ∈ templates, template.blocks = blocks
  /-- The inline partials of blocks in the body are below the rank. -/
  ranks : ∀ name ∈ blockNames templates, Body.Inserts name site.body →
    blockRank templates name < rank

/-- How many bodies of some templates are nested in each other at most, as far as inclusions, ranks
of inline partials and sizes of bodies allow. -/
noncomputable def nestingBound (templates : List Template) (inclusions rank size : Nat) : Nat :=
  inclusions * (((blockNames templates).length + 2) * sizeOf templates) +
    rank * sizeOf templates + size

/-- An inline partial of lower rank needs fewer bodies nested in each other. -/
theorem nestingBound_lt_of_rank {templates : List Template} {lower rank inner : Nat}
    (inclusions size : Nat) (isLower : lower < rank) (smaller : inner < sizeOf templates) :
    nestingBound templates inclusions lower inner <
      nestingBound templates inclusions rank size := by
  have ranks : (lower + 1) * sizeOf templates ≤ rank * sizeOf templates :=
    Nat.mul_le_mul_right _ isLower
  rw [Nat.succ_mul] at ranks
  unfold nestingBound
  omega

/-- A template needs fewer bodies nested in each other if fewer inclusions are left. -/
theorem nestingBound_lt_of_inclusion {templates : List Template} {inner : Nat}
    (inclusions rank size : Nat) (smaller : inner < sizeOf templates) :
    nestingBound templates inclusions ((blockNames templates).length + 1) inner <
      nestingBound templates (inclusions + 1) rank size := by
  have ranks : ((blockNames templates).length + 2) * sizeOf templates =
      ((blockNames templates).length + 1) * sizeOf templates + sizeOf templates :=
    Nat.succ_mul _ _
  have left : (inclusions + 1) * (((blockNames templates).length + 2) * sizeOf templates) =
      inclusions * (((blockNames templates).length + 2) * sizeOf templates) +
        ((blockNames templates).length + 2) * sizeOf templates :=
    Nat.succ_mul _ _
  unfold nestingBound
  omega

namespace Site.Within

variable {templates : List Template} {rank : Nat} {site : Site}

/-- A string or body of a part is within the same rank behind plain frames. -/
theorem inner (within : site.Within templates rank) {body : Body} (frames : Context)
    (plain : ∀ frame ∈ frames, frame.IsPlain)
    (inserts : ∀ name, Body.Inserts name body → Body.Inserts name site.body) :
    Site.Within templates rank { site with context := frames ++ site.context, body } where
  frames := by
    intro blocks mem
    rcases List.mem_append.mp mem with isNew | isOld
    · exact absurd (plain _ isNew) id
    · exact within.frames blocks isOld
  ranks name listed inside := within.ranks name listed (inserts name inside)

/-- The body of a template is within the highest rank. -/
theorem ofTemplate {template : Template} (mem : template ∈ templates) (depth : Nat)
    (outer : Context)
    (frames : ∀ blocks, Frame.blocks blocks ∈ outer →
      ∃ template ∈ templates, template.blocks = blocks) :
    Site.Within templates ((blockNames templates).length + 1)
      ⟨⟨template, depth⟩, .blocks template.blocks :: outer, template.body⟩ where
  frames := by
    intro blocks member
    rcases List.mem_cons.mp member with same | isOuter
    · cases same
      exact ⟨template, mem, rfl⟩
    · exact frames blocks isOuter
  ranks name _ _ := Nat.lt_succ_of_le (blockRank_le templates name)

/-- An inline partial that is rendered in place of a block is one of a template. -/
theorem override (within : site.Within templates rank) {name : String} {body : Body}
    (found : site.context.block? name = some body) :
    ∃ template ∈ templates, (name, body) ∈ template.blocks := by
  obtain ⟨frame, mem, isBlock⟩ := List.exists_of_findSome?_eq_some found
  match frame with
  | .blocks blocks =>
    obtain ⟨template, known, rfl⟩ := within.frames blocks mem
    exact ⟨template, known, Dict.mem_of_get? isBlock⟩

/-- Whatever is rendered in the course of a site needs fewer bodies nested in each other. -/
theorem enters {maxDepth : Nat} {loads : Loads} {next : Site} (acyclic : AcyclicBlocks templates)
    (known : ∀ name base template, loads name base template → template ∈ templates)
    (within : site.Within templates rank) (entering : site.Enters maxDepth loads next) :
    ∃ lower, next.Within templates lower ∧
      nestingBound templates (maxDepth - next.origin.depth) lower (sizeOf next.body) <
        nestingBound templates (maxDepth - site.origin.depth) rank (sizeOf site.body) := by
  cases entering with
  | @string part body mem quotes =>
    refine ⟨rank, within.inner [] (by simp) fun name => .string mem quotes, ?_⟩
    have smaller : sizeOf body < sizeOf site.body :=
      quotes.sizeOf_lt.trans (List.sizeOf_lt_of_mem mem)
    exact Nat.add_lt_add_left smaller _
  | @nested part body frames mem nests plain =>
    refine ⟨rank, within.inner frames plain fun name => .nested mem nests, ?_⟩
    have smaller : sizeOf body < sizeOf site.body :=
      nests.sizeOf_lt.trans (List.sizeOf_lt_of_mem mem)
    exact Nat.add_lt_add_left smaller _
  | @override name main body mem found =>
    obtain ⟨template, known, entry⟩ := within.override found
    have listed : name.name ∈ blockNames templates := mem_blockNames known entry
    have lower : blockRank templates name.name < rank :=
      within.ranks name.name listed (.here mem rfl)
    have smaller : sizeOf body < sizeOf templates := Template.sizeOf_block_lt known entry
    refine ⟨blockRank templates name.name, ⟨within.frames, fun inner isListed inserts => ?_⟩, ?_⟩
    · exact blockRank_lt acyclic ⟨template, known, body, entry, inserts⟩ isListed
    · exact nestingBound_lt_of_rank _ _ lower smaller
  | @included target way list span name template frames mem shallow named loaded plain =>
    have isKnown : template ∈ templates := known _ _ _ loaded
    have smaller : sizeOf template.body < sizeOf templates := Template.sizeOf_body_lt isKnown
    refine ⟨(blockNames templates).length + 1, ofTemplate isKnown _ _ fun blocks mem => ?_, ?_⟩
    · rcases List.mem_append.mp mem with isNew | isOld
      · exact absurd (plain _ isNew) id
      · exact within.frames blocks isOld
    · have inclusions : maxDepth - site.origin.depth = maxDepth - (site.origin.depth + 1) + 1 := by
        omega
      rw [inclusions]
      exact nestingBound_lt_of_inclusion _ _ _ smaller

end Site.Within

namespace Renderer

variable {renderer : Renderer} {templates : List Template}

/-- Rendering a site ends, and it ends the same way for all bounds that are high enough. -/
theorem renderBody_endsAlike {registered : Dict Template}
    (helpers : renderer.helpers = Helper.builtins)
    (isEmpty : renderer.sources.IsEmpty) (acyclic : AcyclicBlocks templates)
    (known : ∀ template ∈ registered.values, template ∈ templates) {rank : Nat} {site : Site}
    (within : site.Within templates rank) {bound bound' : Nat}
    (enough : nestingBound templates (renderer.maxDepth - site.origin.depth) rank
      (sizeOf site.body) ≤ bound)
    (enough' : nestingBound templates (renderer.maxDepth - site.origin.depth) rank
      (sizeOf site.body) ≤ bound') :
    EndsAlike registered (renderer.renderBody bound site.origin site.context site.body)
      (renderer.renderBody bound' site.origin site.context site.body) := by
  have positive (site : Site) (rank : Nat) :
      0 < nestingBound templates (renderer.maxDepth - site.origin.depth) rank
        (sizeOf site.body) :=
    Nat.add_pos_right _ (sizeOf_list_pos site.body)
  induction bound generalizing bound' rank site with
  | zero => exact absurd enough (Nat.not_le_of_lt (positive site rank))
  | succ bound induction =>
    obtain ⟨bound', rfl⟩ :=
      Nat.exists_eq_add_of_le' (Nat.lt_of_lt_of_le (positive site rank) enough')
    refine (EndsAlike.renderLaw isEmpty registered).renderParts (fun next entering => ?_)
      (site.callsBuiltins_of_helpers helpers)
    obtain ⟨lower, nextWithin, less⟩ :=
      within.enters acyclic (fun _ _ template => known template) entering
    exact induction nextWithin (by omega) (by omega)

end Renderer

/-- An engine whose templates are all in its store, and that has no other helpers than those that
are always there, renders every template for all data and globals if no inline partial leads back to
itself. A bound that is high enough depends on the templates and on how deep they may include each
other, and the answer does not depend on the bound then. -/
theorem EngineM.renderOutput_terminates (engine : Engine) (template : Template)
    (helpers : engine.helpers = Helper.builtins) (isEmpty : engine.sources.IsEmpty)
    (acyclic : AcyclicBlocks (template :: engine.store.templates.values)) (maxDepth : Nat) :
    ∃ least, ∀ data globals, ∃ answer : Except Failure Output,
      answer ≠ .error (.halt .exhausted) ∧
      ∀ bound, least ≤ bound →
        ((EngineM.renderOutput template { data, globals, maxDepth := some maxDepth }).run
          { engine with bound }).1 = answer := by
  let templates := template :: engine.store.templates.values
  let least := nestingBound templates maxDepth ((blockNames templates).length + 1)
    (sizeOf template.body)
  refine ⟨least, fun data globals => ?_⟩
  let input : RenderInput := { data, globals, maxDepth := some maxDepth }
  have within : Site.Within templates ((blockNames templates).length + 1)
      ⟨⟨template, 0⟩, [.blocks template.blocks], template.body⟩ :=
    .ofTemplate List.mem_cons_self 0 [] (by simp)
  let render (bound : Nat) : Except Halt Unit × RenderState :=
    ((engine.renderer input).renderTemplate bound template).runFrom (engine.startState input)
  have alike (bound : Nat) (enough : least ≤ bound) :
      render least = render bound ∧ (render least).1 ≠ .error .exhausted := by
    have endsAlike : EndsAlike engine.store.templates
        ((engine.renderer input).renderTemplate least template)
        ((engine.renderer input).renderTemplate bound template) :=
      Renderer.renderBody_endsAlike helpers isEmpty acyclic
        (fun _ => List.mem_cons_of_mem template) within (le_refl least) enough
    obtain ⟨equal, ends, -⟩ := endsAlike (engine.startState input) rfl
    exact ⟨equal, ends⟩
  have answer (bound : Nat) :
      ((EngineM.renderOutput template input).run { engine with bound }).1 =
        answerTo (render bound) :=
    renderOutput_run { engine with bound } template input
  refine ⟨answerTo (render least), fun exhausted => ?_, fun bound enough => ?_⟩
  · obtain ⟨-, ends⟩ := alike least (le_refl least)
    rcases run : render least with ⟨result, later⟩
    rw [run] at ends exhausted
    cases result with
    | ok _ => cases exhausted
    | error halt =>
      cases exhausted
      exact ends rfl
  · rw [answer, (alike bound enough).1]

/-- A template that includes itself, with an inline partial that holds a block of another one. -/
def selfIncluding : Template where
  source := ""
  body := [.block ⟨"outer", default⟩ none, .inclusion (.static "self") none [] default]
  blocks := [("inner", [.text "text"]), ("outer", [.block ⟨"inner", default⟩ none])]
  path := none

/-- The engine that knows this template alone. -/
def selfIncludingEngine : Engine where
  sources := { files := ⟨.directory [], []⟩ }
  store := { templates := [("self", selfIncluding)] }

/-- A template that includes itself is rendered. -/
theorem EngineM.renderOutput_terminates_selfIncluding :
    AcyclicBlocks [selfIncluding, selfIncluding] ∧
    ∃ least, ∀ data globals, ∃ answer : Except Failure Output,
      answer ≠ .error (.halt .exhausted) ∧
      ∀ bound, least ≤ bound →
        ((EngineM.renderOutput selfIncluding { data, globals, maxDepth := some 64 }).run
          { selfIncludingEngine with bound }).1 = answer := by
  have isEmpty : selfIncludingEngine.sources.IsEmpty := by
    refine ⟨fun _ => rfl, fun path => ?_⟩
    unfold FileTree.read?
    cases selfIncludingEngine.sources.files.canonical? path with
    | none => rfl
    | some names => cases names <;> rfl
  have depends (outer inner : String)
      (leads : BlockDepends [selfIncluding, selfIncluding] outer inner) :
      outer = "outer" ∧ inner = "inner" := by
    obtain ⟨template, mem, body, entry, inserts⟩ := leads
    have same : template = selfIncluding := by simpa using mem
    subst same
    simp only [selfIncluding, List.mem_cons, Prod.mk.injEq, List.not_mem_nil, or_false] at entry
    rcases entry with ⟨-, rfl⟩ | ⟨rfl, rfl⟩
    · cases inserts with
      | here mem named => simp at mem
      | string mem quotes => cases List.mem_singleton.mp mem; exact quotes.elim
      | nested mem nests => cases List.mem_singleton.mp mem; exact nests.elim
    · cases inserts with
      | here mem named =>
        cases List.mem_singleton.mp mem
        exact ⟨rfl, named.symm⟩
      | string mem quotes => cases List.mem_singleton.mp mem; exact quotes.elim
      | nested mem nests => cases List.mem_singleton.mp mem; cases nests
  have acyclic : AcyclicBlocks [selfIncluding, selfIncluding] := by
    intro name path
    obtain ⟨_, first, -⟩ := Relation.TransGen.head'_iff.mp path
    obtain ⟨_, -, last⟩ := Relation.TransGen.tail'_iff.mp path
    have isOuter : name = "outer" := (depends _ _ first).1
    have isInner : name = "inner" := (depends _ _ last).2
    rw [isOuter] at isInner
    exact absurd isInner (by decide)
  exact ⟨acyclic, EngineM.renderOutput_terminates selfIncludingEngine selfIncluding rfl isEmpty
    acyclic 64⟩

end Dust
