import Dust.Proofs.Render.EvaluateLaw
import Dust.Proofs.Render.Run

/-!
# What renders leave of the store

The store changes in a render only where a template is included: it is loaded then. So a property of
stores that stays while templates are loaded stays in a whole render, if no helper touches the store
except by what it renders.
-/

namespace Dust

/-- A step keeps a property of the store, also when it comes to a halt. -/
def KeepsStore (kept : Store → Prop) {α : Type} (step : RenderM α) : Prop :=
  ∀ state, kept state.store → kept (step.runFrom state).2.store

namespace KeepsStore

variable {kept : Store → Prop} {α β : Type}

/-- A step that leaves the store keeps its properties. -/
theorem untouched {step : RenderM α}
    (same : ∀ state, (step.runFrom state).2.store = state.store) : KeepsStore kept step :=
  fun state isKept => (same state).symm ▸ isKept

/-- Steps in a row keep what each of them does. -/
theorem bind {first : RenderM α} {next : α → RenderM β} (keeps : KeepsStore kept first)
    (after : ∀ value, KeepsStore kept (next value)) : KeepsStore kept (first >>= next) := by
  intro state isKept
  have between := keeps state isKept
  rw [RenderM.runFrom_bind]
  rcases run : first.runFrom state with ⟨result, middle⟩
  rw [run] at between
  cases result with
  | error halt => exact between
  | ok value => exact after value middle between

/-- A body keeps the same with an output of its own. -/
theorem apart {wrapped : RenderM α} {step : RenderM Unit} {value : Output → α}
    {shown : Output → Output} {aside : Output → Option Error}
    (runs : RenderM.RunsApart wrapped step value shown aside) (keeps : KeepsStore kept step) :
    KeepsStore kept wrapped := by
  intro state isKept
  have inside := keeps { state with output := {} } isKept
  rw [runs]
  rcases run : step.runFrom { state with output := {} } with ⟨result, later⟩
  rw [run] at inside
  cases result <;> exact inside

/-- A step keeps the same while errors are gathered. -/
theorem gathered {step : RenderM α} (keeps : KeepsStore kept step) :
    KeepsStore kept (RenderM.gathered step) := by
  intro state isKept
  have inside := keeps { state with pending := none } isKept
  rw [RenderM.runFrom_gathered]
  rcases run : step.runFrom { state with pending := none } with ⟨result, later⟩
  rw [run] at inside
  cases result <;> exact inside

/-- The elementary steps of helpers leave the store. -/
theorem stepLaw (kept : Store → Prop) : StepLaw fun step _ => KeepsStore kept step where
  pure _ := untouched fun _ => rfl
  bind := .bind
  overflow := untouched fun _ => rfl
  read _ := untouched fun _ => rfl
  change _ := untouched fun _ => rfl
  write _ := untouched fun _ => rfl

/-- All steps of the evaluator keep what loading templates keeps. -/
theorem renderLaw {sources : Sources}
    (loading : ∀ store name base, kept store → kept (store.load sources name base).2) :
    RenderLaw sources (fun _ _ _ => True) (fun step _ => KeepsStore kept step)
      (fun step _ => KeepsStore kept step) (fun step _ => KeepsStore kept step) :=
  have output : OutputLaw sources (fun _ _ _ => True) fun step _ => KeepsStore kept step :=
    { apart := fun runs _ => .apart runs
      gathered := .gathered
      loaded := fun after => .bind (fun state isKept => loading state.store _ _ isKept)
        fun result => after result fun _ _ => trivial
      raise := fun _ _ _ => untouched fun _ => rfl }
  output.renderLaw (stepLaw kept)

end KeepsStore

/-- A helper leaves the store alone, except by what it renders. -/
def Helper.LoadsByRendering (helper : Helper) : Prop :=
  ∀ (kept : Store → Prop) (call : Call),
    (∀ context body, KeepsStore kept (call.render context body)) →
      KeepsStore kept (Renderer.runHelper call helper) ∧
      ∀ run, helper = .probe run → KeepsStore kept (run call)

/-- A helper that is always there leaves the store alone, except by what it renders. -/
theorem Helper.loadsByRendering_of_builtin {name : String} {helper : Helper}
    (builtin : (name, helper) ∈ Helper.builtins) : helper.LoadsByRendering := by
  intro kept call renders
  have law := KeepsStore.stepLaw kept
  have noProbe : ∀ run, helper ≠ .probe run := by
    cases Helper.builtin_cases builtin <;> nofun
  refine ⟨?_, fun run same => absurd same (noProbe run)⟩
  refine @StepLaw.builtin_run _ law call call.render (fun body _ => ?_)
    (fun frames body _ _ => renders _ body) name helper builtin
  exact KeepsStore.bind (.apart (RenderM.quoted_runsApart _) (renders call.context body))
    fun _ => .untouched fun _ => rfl

/-- Rendering a body keeps a property of stores that loading templates keeps, if helpers leave the
store alone, except by what they render. -/
theorem Renderer.renderBody_keepsStore {renderer : Renderer} {kept : Store → Prop}
    (loading : ∀ store name base, kept store → kept (store.load renderer.sources name base).2)
    (helpers : ∀ name helper, renderer.helpers.get? name = some helper → helper.LoadsByRendering)
    (bound : Nat) (origin : Origin) (context : Context) (body : Body) :
    KeepsStore kept (renderer.renderBody bound origin context body) := by
  have law := KeepsStore.renderLaw loading
  induction bound generalizing origin context body with
  | zero => exact .untouched fun _ => rfl
  | succ bound induction =>
    let site : Site := ⟨origin, context, body⟩
    have call (name : Identifier) (list : List Param) (main : Option Body) (bodies : Dict Body)
        (span : Span) :
        KeepsStore kept (renderer.renderHelper (renderer.renderBody bound) origin context name list
          main bodies span) := by
      unfold renderHelper
      cases found : renderer.helpers.get? name.name with
      | none => exact .untouched fun _ => rfl
      | some helper =>
        obtain ⟨keeps, -⟩ := helpers _ helper found kept
          { renderer.params (renderer.renderBody bound) origin context list with
            main, bodies, filters := renderer.filters } (induction origin)
        refine .bind keeps.gathered fun result => ?_
        cases result <;> exact .untouched fun _ => rfl
    refine @CalmLaw.partByPart _ law.toCalmLaw renderer renderer (renderer.renderBody bound)
      (renderer.renderBody bound) origin origin context body fun part mem => ?_
    exact @RenderFlowLaw.renderPart renderer _ _ _ _ law.toRenderFlowLaw
      (renderer.renderBody bound) (renderer.renderBody bound) site
      (fun inner _ => induction _ _ _) law.looks part mem
      fun name list main bodies span _ => call name list main bodies span

end Dust
