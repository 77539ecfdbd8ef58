import Dust.Proofs.Render.EvaluateLaw
import Dust.Proofs.Render.Run

/-!
# Stopping at the first error

A render goes on after an error and reports one error in the end. A strict render goes through the
same steps and stops right after the first error that is raised, wherever that is: in a body, in a
string of a parameter, in the name of a template or in an included template. The output that it
leaves holds that error. So it tells which error is raised first.

A strict render may also give up before a part, without an error. What follows a part is then not
looked at.
-/

namespace Dust

/-- An error is another one that was raised before, perhaps with the name of a template. -/
def Error.IsOf (reported raised : Error) : Prop :=
  ∃ name, reported = { raised with template := raised.template.or name }

namespace Error.IsOf

/-- An error is itself. -/
theorem refl (error : Error) : error.IsOf error :=
  ⟨none, by simp⟩

/-- An error with the name of a template is what it was before. -/
theorem inTemplate {reported raised : Error} (isOf : reported.IsOf raised) (name : String) :
    (reported.inTemplate name).IsOf raised := by
  obtain ⟨outer, rfl⟩ := isOf
  exact ⟨outer.or (some name), by simp [Error.inTemplate]⟩

/-- An error has the message of the one that it is. -/
theorem message {reported raised : Error} (isOf : reported.IsOf raised) :
    reported.message = raised.message := by
  obtain ⟨name, rfl⟩ := isOf
  rfl

end Error.IsOf

/-- Whether to give up before a part, at a bound for the bodies that are nested in each other. -/
abbrev GivesUp := Nat → Origin → Context → Part → RenderState → Bool

namespace Renderer

variable (renderer : Renderer)

/-- Renders parts in order and stops after the first error. -/
def renderPartsStrictly (givesUp : Origin → Context → Part → RenderState → Bool)
    (render : BodyRender) (origin : Origin) (context : Context) : Body → RenderM Unit
  | [] => return
  | part :: rest => do
    if givesUp origin context part (← get) then throw .exhausted
    else
      renderer.renderPart render origin context part
      if (← get).output.error.isSome then throw .exhausted
      else renderPartsStrictly givesUp render origin context rest

/-- How strict parts end: a part is given up, or it comes to a halt, or an error follows it, or the
rest is rendered. -/
theorem runFrom_renderPartsStrictly_cons (givesUp : Origin → Context → Part → RenderState → Bool)
    (render : BodyRender) (origin : Origin) (context : Context) (part : Part) (rest : Body)
    (state : RenderState) :
    (renderer.renderPartsStrictly givesUp render origin context (part :: rest)).runFrom state =
      if givesUp origin context part state then (.error .exhausted, state)
      else
        match (renderer.renderPart render origin context part).runFrom state with
        | (.ok _, middle) =>
          if middle.output.error.isSome then (.error .exhausted, middle)
          else (renderer.renderPartsStrictly givesUp render origin context rest).runFrom middle
        | (.error halt, stopped) => (.error halt, stopped) := by
  conv =>
    lhs
    rw [renderPartsStrictly, RenderM.runFrom_bind, RenderM.runFrom_get]
  dsimp only
  by_cases given : givesUp origin context part state = true
  · rw [if_pos given, if_pos given, RenderM.runFrom_throw]
  · rw [if_neg given, if_neg given, RenderM.runFrom_bind]
    rcases (renderer.renderPart render origin context part).runFrom state with ⟨result, middle⟩
    cases result with
    | error halt => rfl
    | ok value =>
      dsimp only
      rw [RenderM.runFrom_bind, RenderM.runFrom_get]
      dsimp only
      split <;> rfl

/-- Renders bodies that are nested in each other up to a bound, and stops after the first error. -/
def renderStrictly (givesUp : GivesUp) (bound : Nat) : BodyRender := fun origin context body =>
  match bound with
  | 0 => throw .exhausted
  | bound + 1 =>
    renderer.renderPartsStrictly (givesUp bound) (renderStrictly givesUp bound) origin context body

/-- The error that is raised first when a body is rendered from a state. -/
def firstRaised (bound : Nat) (origin : Origin) (context : Context) (body : Body)
    (state : RenderState) : Option Error :=
  ((renderer.renderStrictly (fun _ _ _ _ _ => false) bound origin context body).runFrom
    state).2.output.error

/-- Whether a part calls a helper and, where no error has been raised before, both a string in the
parameters of the call and what the helper renders raise an error. -/
def displaces (render : BodyRender) (origin : Origin) (context : Context) (part : Part)
    (state : RenderState) : Bool :=
  match part with
  | .element (.helper name) list main bodies _ =>
    match renderer.helpers.get? name.name with
    | some helper =>
      let call : Call := { renderer.params render origin context list with
        main, bodies, filters := renderer.filters }
      match (runHelper call helper).runFrom { state with pending := none } with
      | (.ok _, later) =>
        state.output.error.isNone && later.pending.isSome && later.output.error.isSome
      | _ => false
    | none => false
  | _ => false

/-- No call of a helper in which the first error is raised by a string goes on to raise another one.
A strict render goes that far, so that it ends or stops with the first error. -/
def KeepsFirst (bound : Nat) (origin : Origin) (context : Context) (body : Body)
    (state : RenderState) : Prop :=
  let run := (renderer.renderStrictly (fun bound => renderer.displaces (renderer.renderBody bound))
    bound origin context body).runFrom state
  run.1 = .ok () ∨ run.2.output.error.isSome

end Renderer

end Dust
