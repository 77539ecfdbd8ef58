import Dust.Proofs.Render.Confined
import Dust.Proofs.Render.Ownership
import Dust.Syntax.Equality

/-!
# Where included templates are looked for

The file of an included template is looked for in a directory first, if its name says no other
place. The evaluator takes the directory of the template that is being rendered. This is the one in
which the tag is written, unless the tag is in an inline partial that is rendered in place of a
block of another template.
-/

namespace Dust

/-- The file of a relative name in a directory. -/
def Sources.fileIn? (sources : Sources) (name : String) (directory : FilePath) : Option String :=
  let path := FilePath.ofString (String.ofList (fileNameOf name))
  if path.absolute then none
  else (sources.files.canonicalFile? (directory.join path)).map FilePath.textFromRoot

/-- Loads the template of a name. If no template is kept or supplied under it, a file in the given
directory is tried first. -/
def Store.loadNear (sources : Sources) (store : Store) (name : String)
    (directory : Option FilePath) : Except Error (Option Template) × Store :=
  if store.get? name = none ∧ sources.supplier name = none then
    match directory.bind (sources.fileIn? name) with
    | some path =>
      let (template, store) := store.loadFile sources path
      (template.map some, store)
    | none => store.load sources name none
  else store.load sources name none

/-- A file is looked for in the directory first, and then as if there were none. -/
theorem Sources.directFile?_eq (sources : Sources) (base : Option FilePath) (name : String) :
    sources.directFile? base (fileNameOf name) =
      (base.bind (sources.fileIn? name)).or (sources.directFile? none (fileNameOf name)) := by
  cases base with
  | none => rw [Option.bind_none, Option.none_or]
  | some directory =>
    by_cases absolute : (FilePath.ofString (String.ofList (fileNameOf name))).absolute
    · simp [directFile?, candidates, fileIn?, absolute]
    · simp only [directFile?, candidates, fileIn?, absolute, Option.bind_some,
        List.findSome?_cons, List.findSome?_nil, Bool.false_eq_true, if_false]
      generalize sources.files.canonicalFile?
        (directory.join (FilePath.ofString (String.ofList (fileNameOf name)))) = near
      cases near <;> simp

/-- Loading a template from a directory tries the files in the directory first. -/
theorem Store.load_eq_loadNear (sources : Sources) (store : Store) (name : String)
    (base : Option FilePath) :
    store.load sources name base = store.loadNear sources name base := by
  unfold loadNear
  by_cases unknown : store.get? name = none ∧ sources.supplier name = none
  · obtain ⟨absent, unsupplied⟩ := unknown
    rw [if_pos ⟨absent, unsupplied⟩]
    have direct := sources.directFile?_eq base name
    cases near : base.bind (sources.fileIn? name) with
    | some path =>
      rw [near, Option.some_or] at direct
      simp [load, absent, unsupplied, loadLocated, locate, direct]
    | none =>
      rw [near, Option.none_or] at direct
      simp [load, absent, unsupplied, loadLocated, locate, direct]
  · rw [if_neg unknown]
    cases found : store.get? name with
    | some template => simp [load, found]
    | none =>
      cases supplied : sources.supplier name with
      | some source => simp [load, found, supplied]
      | none => exact absurd ⟨found, supplied⟩ unknown

namespace Renderer

variable (renderer : Renderer) (directory : Option FilePath) (render : BodyRender)
  (origin : Origin) (context : Context)

/-- Renders another template in place of a tag. Its file is tried in the given directory first. -/
def renderInclusionNear (target : Target) (way : Option Path) (list : List Param) (span : Span) :
    RenderM Unit := do
  if renderer.maxDepth ≤ origin.depth then
    origin.noteFault (.includedTooDeep renderer.maxDepth) span
  else
    let name ← targetName render origin context target
    let found ← RenderM.withStore fun store => store.loadNear renderer.sources name directory
    renderer.renderFound render origin context name way list span found

/-- Renders a part. The files of included templates are tried in the given directory first. -/
def renderPartNear : Part → RenderM Unit
  | .inclusion target way list span =>
    renderer.renderInclusionNear directory render origin context target way list span
  | part => renderer.renderPart render origin context part

/-- Renders parts in order. The files of included templates are tried in the given directory
first. -/
def renderPartsNear : Body → RenderM Unit
  | [] => return
  | part :: rest => do
    renderer.renderPartNear directory render origin context part
    renderPartsNear rest

/-- The evaluator tries files in the directory of the template that is being rendered. -/
theorem renderParts_eq_near (parts : Body) :
    renderer.renderParts render origin context parts =
      renderer.renderPartsNear origin.template.directory? render origin context parts := by
  induction parts with
  | nil => rfl
  | cons part rest induction =>
    have here : renderer.renderPart render origin context part =
        renderer.renderPartNear origin.template.directory? render origin context part := by
      cases part with
      | inclusion target way list span =>
        simp only [renderPart, renderPartNear, renderInclusion, renderInclusionNear,
          Store.load_eq_loadNear]
      | _ => rfl
    rw [renderParts, renderPartsNear, here, induction]

open Classical in
/-- Renders bodies as the evaluator does at some sites, and in some other way elsewhere. -/
noncomputable def renderOnly (sites : Site → Prop) (elsewhere : BodyRender) :
    Nat → BodyRender
  | 0 => fun _ _ _ => throw .exhausted
  | bound + 1 => fun origin context body =>
    if sites ⟨origin, context, body⟩ then
      renderer.renderParts (renderOnly sites elsewhere bound) origin context body
    else elsewhere origin context body

end Renderer

/-- A render goes through the sites that are reached from its template and through no others. At
each of them every included template is looked for first in the directory of the template in which
the tag is written, unless the tag is in place of a block of a template from another directory. -/
theorem EngineM.renderOutput_looks_where_written (engine : Engine) (template : Template)
    (input : RenderInput) (confined : Helper.AllConfined engine.helpers) :
    let renderer := engine.renderer input
    let loads := engine.store.Loadable engine.sources
    let reached := template.site.Reaches renderer.maxDepth loads
    (∀ elsewhere, ((renderOutput template input).run engine).1 =
      answerTo ((renderer.renderOnly reached elsewhere engine.bound ⟨template, 0⟩
        [.blocks template.blocks] template.body).runFrom (engine.startState input))) ∧
    ∀ site, reached site →
      (∃ owner, site.IsWrittenIn renderer.maxDepth loads template owner) ∧
      ∀ owner, site.IsWrittenIn renderer.maxDepth loads template owner →
        (site.Fills renderer.maxDepth loads template owner →
          owner.directory? = site.origin.template.directory?) →
        ∀ render, renderer.renderParts render site.origin site.context site.body =
          renderer.renderPartsNear owner.directory? render site.origin site.context site.body := by
  intro renderer loads reached
  refine ⟨fun elsewhere => ?_, fun site isReached =>
    ⟨(Site.Reaches.exists_isWrittenIn isReached).1, fun owner written inPlace render => ?_⟩⟩
  · have runsAlike := @Renderer.renderBody_alike renderer engine.store confined template.site
      (renderer.renderOnly reached elsewhere) (fun _ _ _ => rfl)
      (fun _ _ isReached => if_pos isReached) engine.bound template.site .refl
    obtain ⟨equal, -⟩ := runsAlike (engine.startState input) .refl
    rw [renderOutput_run]
    exact congrArg answerTo equal
  · have same : owner.directory? = site.origin.template.directory? := by
      rcases written.place with rfl | fills
      · rfl
      · exact inPlace fills
    rw [same]
    exact renderer.renderParts_eq_near render site.origin site.context site.body

/-- The template of a page, with an inline partial that includes another template. -/
def page : Template where
  source := "\x7b<side\x7d\x7b>menu/\x7d\x7b/side\x7d\x7b>\"../layouts/base\"/\x7d"
  body := [.inclusion (.static "../layouts/base") none [] ⟨22, 43⟩]
  blocks := [("side", [.inclusion (.static "menu") none [] ⟨7, 15⟩])]
  path := some "/pages/page.dust"

/-- The template of a layout in another directory. -/
def layout : Template where
  source := "{+side/}"
  body := [.block ⟨"side", ⟨2, 6⟩⟩ none]
  blocks := []
  path := some "/layouts/base.dust"

/-- Two directories with templates of one name. The layout has been loaded. -/
def website : Engine where
  sources := { files := ⟨.directory
    [("layouts", .directory
      [("base.dust", .file layout.source.toUTF8), ("menu.dust", .file "of layouts".toUTF8)]),
     ("pages", .directory
      [("menu.dust", .file "of pages".toUTF8), ("page.dust", .file page.source.toUTF8)])], []⟩ }
  store := { templates := [("/layouts/base.dust", layout)] }

example : [page, layout].all (fun template =>
    (Template.compile .preserve template.source).toOption ==
      some { template with path := none }) = true := by
  decide +kernel

/-- The render of a page goes through the sites that are reached. -/
theorem EngineM.renderOutput_looks_where_written_website :
    Helper.AllConfined website.helpers ∧
    let renderer := website.renderer { data := .null }
    let loads := website.store.Loadable website.sources
    let reached := page.site.Reaches renderer.maxDepth loads
    (∀ elsewhere, ((renderOutput page { data := .null }).run website).1 =
      answerTo ((renderer.renderOnly reached elsewhere website.bound ⟨page, 0⟩
        [.blocks page.blocks] page.body).runFrom (website.startState { data := .null }))) ∧
    ∀ site, reached site →
      (∃ owner, site.IsWrittenIn renderer.maxDepth loads page owner) ∧
      ∀ owner, site.IsWrittenIn renderer.maxDepth loads page owner →
        (site.Fills renderer.maxDepth loads page owner →
          owner.directory? = site.origin.template.directory?) →
        ∀ render, renderer.renderParts render site.origin site.context site.body =
          renderer.renderPartsNear owner.directory? render site.origin site.context site.body :=
  ⟨Helper.allConfined_builtins,
    EngineM.renderOutput_looks_where_written website page { data := .null }
      Helper.allConfined_builtins⟩

/-- In place of a block, a template is looked for in the directory of the template that has the
block. -/
theorem EngineM.renderOutput_looks_elsewhere :
    ¬ ∀ (engine : Engine) (template : Template) (input : RenderInput) (site : Site)
      (owner : Template), Helper.AllConfined engine.helpers →
      let renderer := engine.renderer input
      let loads := engine.store.Loadable engine.sources
      template.site.Reaches renderer.maxDepth loads site →
      site.IsWrittenIn renderer.maxDepth loads template owner →
      ∀ render, renderer.renderParts render site.origin site.context site.body =
        renderer.renderPartsNear owner.directory? render site.origin site.context site.body := by
  intro always
  let input : RenderInput := { data := .null }
  let renderer := website.renderer input
  let loads := website.store.Loadable website.sources
  let inline : Body := [.inclusion (.static "menu") none [] ⟨7, 15⟩]
  let context : Context := [.blocks layout.blocks, .blocks page.blocks]
  let inLayout : Site := ⟨⟨layout, 1⟩, context, layout.body⟩
  let inPlace : Site := { inLayout with body := inline }
  have loaded : loads "../layouts/base" page.directory? layout := ⟨website.store, .refl, rfl⟩
  have reachesLayout : page.site.Reaches renderer.maxDepth loads inLayout :=
    .single (.included [] List.mem_cons_self (by decide) rfl loaded (by simp))
  have isBlock : Part.block ⟨"side", ⟨2, 6⟩⟩ none ∈ layout.body := List.mem_cons_self
  have found : context.block? "side" = some inline := rfl
  have differ : page ≠ layout := fun same => absurd (congrArg Template.path same) (by decide)
  have reaches : page.site.Reaches renderer.maxDepth loads inPlace :=
    reachesLayout.tail (.override isBlock found)
  have written : inPlace.IsWrittenIn renderer.maxDepth loads page page :=
    { known := .inl rfl
      holds := .inr ⟨("side", inline), List.mem_cons_self, .self inline⟩
      place := .inr ⟨differ, inLayout, _, _, inline, reachesLayout, rfl, isBlock, found,
        List.mem_cons_self, .self inline⟩ }
  have same : renderer.renderParts (renderer.renderBody 1) inPlace.origin inPlace.context
        inPlace.body =
      renderer.renderPartsNear page.directory? (renderer.renderBody 1) inPlace.origin
        inPlace.context inPlace.body :=
    always website page input inPlace page Helper.allConfined_builtins reaches written _
  let text (step : RenderM Unit) : String :=
    (step.runFrom (website.startState input)).2.output.text
  have ofLayouts : text (renderer.renderParts (renderer.renderBody 1) inPlace.origin
      inPlace.context inPlace.body) = "of layouts" := by
    decide +kernel
  have ofPages : text (renderer.renderPartsNear page.directory? (renderer.renderBody 1)
      inPlace.origin inPlace.context inPlace.body) = "of pages" := by
    decide +kernel
  rw [same, ofPages] at ofLayouts
  exact absurd ofLayouts (by decide)

example : ((EngineM.renderOutput page { data := .null }).run website).1.toOption.map
    (·.text) = some "of layouts" := by
  decide +kernel

end Dust
