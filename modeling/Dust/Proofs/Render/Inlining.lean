import Dust.Proofs.Engine.HelpersUsed
import Dust.Proofs.Render.Append
import Dust.Proofs.Render.Clean
import Dust.Proofs.Render.Transparent
import Dust.Proofs.Store.Settled

/-!
# Including is inlining

An included template is rendered into an output of its own, one inclusion deeper, with its own place
for errors, and behind the frame of its inline partials. None of this is seen in a text without
errors if the template has no inline partials: rendering its body in place of the tag does the same.
-/

namespace Dust

/-- The origin of a body when a template is rendered in place of its inclusion in another one: what
it includes is one inclusion less deep. -/
def Origin.inlined (outer origin : Origin) : Origin :=
  if origin.depth = outer.depth + 1 then outer else ⟨origin.template, origin.depth - 1⟩

/-- Without files nothing else changes when a template is rendered in place of its inclusion. -/
theorem Origin.inlined_moves {renderer : Renderer} (isEmpty : renderer.sources.IsEmpty)
    (outer : Origin) : Origin.Moves renderer renderer (outer.depth + 1) outer.inlined where
  inner origin template deep := by
    have further : origin.depth + 1 ≠ outer.depth + 1 := by omega
    have less : (outer.inlined origin).depth + 1 = origin.depth := by
      unfold inlined
      split
      · omega
      · exact Nat.sub_add_cancel (Nat.le_trans (Nat.le_add_left 1 _) deep)
    rw [less]
    simp only [inlined, if_neg further, Nat.add_sub_cancel]
  shallow origin deep shallow := by
    refine Nat.lt_of_le_of_lt ?_ shallow
    unfold inlined
    split
    · omega
    · exact Nat.sub_le _ _
  loads _ _ _ _ := isEmpty.load_eq _ _ _ _

namespace Renderer

variable {renderer : Renderer} {name : String} {template : Template}

/-- An inclusion that is too deep notes an error. -/
theorem renderBody_tooDeep {bound : Nat} {origin : Origin} {context : Context} {span : Span}
    {state later : RenderState}
    (ends : (renderer.renderBody bound origin context
      [.inclusion (.static name) none [] span]).runFrom state = (.ok (), later))
    (clean : later.output.error = none) : origin.depth < renderer.maxDepth := by
  refine Nat.lt_of_not_le fun tooDeep => ?_
  cases bound with
  | zero => cases ends
  | succ bound =>
    have refused : (renderer.renderInclusion (renderer.renderBody bound) origin context
        (.static name) none [] span).runFrom state = (.ok (), later) := by
      obtain ⟨_, middle, first, last⟩ := RenderM.runFrom_bind_ok ends
      cases last
      exact first
    unfold renderInclusion at refused
    rw [if_pos tooDeep] at refused
    have alike : CleanAlike later.pending _ (throw .exhausted) :=
      .raise origin (.ofRender (.includedTooDeep renderer.maxDepth)) span _
    cases (alike state () later refused ⟨clean, rfl⟩).2

/-- The inclusion of a template that is kept renders its body behind the frame of its inline
partials, unless it is too deep. -/
theorem renderBody_inclusion {bound : Nat} {origin : Origin} (context : Context) (span : Span)
    (shallow : origin.depth < renderer.maxDepth) {state : RenderState}
    (known : state.store.get? name = some template) :
    (renderer.renderBody (bound + 1) origin context
        [.inclusion (.static name) none [] span]).runFrom state =
      (RenderM.included name (renderer.renderBody bound ⟨template, origin.depth + 1⟩
        (.blocks template.blocks :: context) template.body)).runFrom state := by
  let inner := RenderM.included name (renderer.renderBody bound ⟨template, origin.depth + 1⟩
    (.blocks template.blocks :: context) template.body)
  have loaded (base : Option FilePath) :
      state.store.load renderer.sources name base = (.ok (some template), state.store) := by
    simp [Store.load, known]
  have included : (renderer.renderIncluded (renderer.renderBody bound) origin context name template
      none []).runFrom state = inner.runFrom state := by
    have noParams : (RenderM.gathered (renderer.params (renderer.renderBody bound) origin context
        []).resolveAll).runFrom state = (.ok [], state) := by
      rw [RenderM.runFrom_gathered]
      exact congrArg (fun output => (Except.ok [], { state with output }))
        (Output.append_empty state.output)
    unfold renderIncluded
    rw [RenderM.runFrom_bind, noParams]
    rfl
  have found : (renderer.renderInclusion (renderer.renderBody bound) origin context (.static name)
      none [] span).runFrom state = inner.runFrom state := by
    unfold renderInclusion
    rw [if_neg (Nat.not_le_of_lt shallow)]
    simp only [targetName, pure_bind]
    rw [RenderM.runFrom_bind, RenderM.runFrom_withStore, loaded]
    exact included
  change ((do
    renderer.renderInclusion (renderer.renderBody bound) origin context (.static name) none [] span
    pure ()) : RenderM Unit).runFrom state = _
  simp only [bind_pure_unit]
  exact found

/-- A clean render of a template without inline partials is the same in place of its inclusion. -/
theorem renderBody_inlined (helpers : renderer.helpers = Helper.builtins)
    (isEmpty : renderer.sources.IsEmpty) (plain : template.blocks = []) {bound : Nat}
    {origin : Origin} {context : Context} {state later : RenderState}
    (ends : (renderer.renderBody bound ⟨template, origin.depth + 1⟩
      (.blocks template.blocks :: context) template.body).runFrom state = (.ok (), later))
    (clean : later.output.error = none) :
    (renderer.renderBody (bound + 1) origin context template.body).runFrom state =
      (.ok (), later) := by
  have alike := @renderBody_cleanAlike renderer _ _ _ (origin.inlined_moves isEmpty) helpers bound
    (bound + 1) (Nat.le_succ bound)
    ⟨⟨template, origin.depth + 1⟩, .blocks template.blocks :: context, template.body⟩
    (Nat.le_refl _) later.pending
  have same := (alike state () later ends ⟨clean, rfl⟩).2
  have inPlace : origin.inlined ⟨template, origin.depth + 1⟩ = origin := if_pos rfl
  have hidden : Context.visible (.blocks template.blocks :: context) = context.visible := by
    rw [plain]
    rfl
  have overlooks : BodyRender.Overlooks (renderer.renderBody (bound + 1)) :=
    renderBody_overlooks helpers (bound + 1)
  rw [inPlace] at same
  rw [← overlooks, ← hidden, overlooks]
  exact same

/-- Rendering the body of a template that has no inline partials in place of its inclusion does the
same as rendering the inclusion, if this notes no error: it writes the same text, notes no error
either, and leaves the same data, flags of selections and templates. This holds in every context,
at every depth, and whatever has been written before. -/
theorem renderBody_inlines (renderer : Renderer) (helpers : renderer.helpers = Helper.builtins)
    (isEmpty : renderer.sources.IsEmpty) (bound : Nat) (origin : Origin) (context : Context)
    (state : RenderState) (name : String) (template : Template) (span : Span)
    (known : state.store.get? name = some template) (plain : template.blocks = []) :
    let tag := renderer.renderBody bound origin context [.inclusion (.static name) none [] span]
    let direct := renderer.renderBody bound origin context template.body
    ∀ later, tag.runFrom { state with output := {} } = (.ok (), later) →
      later.output.error = none →
        direct.runFrom state = tag.runFrom state ∧
        direct.runFrom state =
          (.ok (), { later with output := state.output.write later.output.text }) := by
  intro tag direct later ends clean
  have shallow : origin.depth < renderer.maxDepth := renderBody_tooDeep ends clean
  obtain ⟨bound, rfl⟩ : ∃ less, bound = less + 1 := by
    cases bound with
    | zero => cases ends
    | succ bound => exact ⟨bound, rfl⟩
  let inner := renderer.renderBody bound ⟨template, origin.depth + 1⟩
    (.blocks template.blocks :: context) template.body
  have included (output : Output) :
      tag.runFrom { state with output } =
        (RenderM.included name inner).runFrom { state with output } :=
    renderBody_inclusion context span shallow known
  rw [included {}, RenderM.included_runsApart] at ends
  rcases run : inner.runFrom { state with output := {} } with ⟨result, innerLater⟩
  rw [run] at ends
  cases result with
  | error halt => cases ends
  | ok value =>
    cases ends
    have innerClean : innerLater.output.error = none := by simpa using clean
    have apart : direct.runFrom { state with output := {} } = (.ok (), innerLater) :=
      renderBody_inlined helpers isEmpty plain run innerClean
    have appends := renderBody_appends (bound + 1) ⟨origin, context, template.body⟩
      (Site.usesBuiltins_of_helpers helpers state.store _)
    have direct_eq : direct.runFrom state = (.ok (), { innerLater with
        output := state.output.write innerLater.output.text }) := by
      have isText : innerLater.output = { text := innerLater.output.text } :=
        congrArg (Output.mk innerLater.output.text) innerClean
      rw [Output.write_eq_append, ← isText]
      exact appends.runFrom_of_apart .refl apart
    have tag_eq : tag.runFrom state = (.ok (), { innerLater with
        output := state.output.write innerLater.output.text }) := by
      refine (included state.output).trans ?_
      rw [RenderM.included_runsApart, run]
      simp [innerClean, Output.write_eq_append]
    refine ⟨direct_eq.trans tag_eq.symm, direct_eq.trans ?_⟩
    simp [Output.write]

/-- A template that tells the place in a list and renders between items. -/
def listed : Template where
  source := "\x7b$idx\x7d\x7b@sep\x7d, \x7b/sep\x7d"
  body :=
    [.reference ⟨.relative, [.name "$idx"], ⟨1, 5⟩⟩ [] ⟨0, 6⟩,
      .element (.helper ⟨"sep", ⟨8, 11⟩⟩) [] (some [.text ", "]) [] ⟨6, 20⟩]
  blocks := []
  path := none

example : ((Template.compile .preserve listed.source).toOption == some listed) = true := by
  decide +kernel

/-- The template is included for an item of a list, behind some text. -/
theorem renderBody_inlines_listed :
    let state : RenderState :=
      { output := ⟨"before ", none⟩, store := { templates := [("listed", listed)] } }
    let context : Context := [.value (.string "item") (some ⟨0, 2⟩)]
    let tag := builtinRenderer.renderBody 4 ⟨listed, 0⟩ context
      [.inclusion (.static "listed") none [] default]
    let direct := builtinRenderer.renderBody 4 ⟨listed, 0⟩ context listed.body
    direct.runFrom state = tag.runFrom state ∧
      (direct.runFrom state).2.output.text = "before 0, " := by
  intro state context tag direct
  have isEmpty : builtinRenderer.sources.IsEmpty := (isClosed_engineOf []).isEmpty
  have ends : tag.runFrom { state with output := {} } =
      (.ok (), (tag.runFrom { state with output := {} }).2) := by
    rfl
  obtain ⟨same, written⟩ := renderBody_inlines builtinRenderer rfl isEmpty 4 ⟨listed, 0⟩ context
    state "listed" listed default rfl rfl _ ends rfl
  refine ⟨same, ?_⟩
  rw [written]
  rfl

end Renderer

end Dust
