import Dust.Proofs.Render.Iterating
import Dust.Proofs.Value.Comparison

/-!
# Bounds of separators

The tag that renders between items leaves out some items at the start and some at the end. Their
numbers are any integers of 64 bits, negative ones too, and may be given as texts. The bounds are
those of the integers, except that the program stops where the bound at the end is beyond 64 bits,
unless the item is left out at the start.
-/

namespace Dust

/-- The integer that a parameter gives: the one that its value is or spells, or else another one if
it has no value. -/
inductive GivesInteger (otherwise : Int) : Option Value → Int → Prop where
  /-- The parameter has no value. -/
  | leftOut : GivesInteger otherwise none otherwise
  /-- Its value is an integer or the text of one. -/
  | given {value : Value} {n : Int64} (spells : value.Spells n) :
    GivesInteger otherwise (some value) n.toInt

/-- A helper takes the integer that a parameter gives. -/
theorem GivesInteger.runFrom_integerParam {call : Call} {name : String} {otherwise n : Int}
    {value : Option Value} {state later : RenderState}
    (asks : (call.get? name).runFrom state = (.ok value, later))
    (gives : GivesInteger otherwise value n) :
    (Helper.integerParam call name otherwise).runFrom state = (.ok n, later) := by
  unfold Helper.integerParam
  rw [RenderM.runFrom_bind, asks]
  cases gives with
  | leftOut => rfl
  | given spells =>
    simp only [Option.bind_some, spells.quantity?]
    rfl

/-- Asks for the numbers of items to leave out, and renders the main body if it is between them. -/
def Call.renderSeparated (call : Call) (between : Bool) : RenderM Unit := do
  let _ ← call.get? "start"
  let _ ← call.get? "end"
  if between then call.renderMain

/-- At a place in a list the tag of `sep` asks for the numbers of items to leave out at the start and
at the end, which are zero and one if they are left out. Then it renders its main body exactly if
the place is between them, for any two integers of 64 bits. Only where the place at which it ends is
beyond the integers of 64 bits, and the item is not left out at the start, it stops the program. -/
theorem Renderer.separates_between {renderer : Renderer} {render : BodyRender} {origin : Origin}
    {context : Context} {list : List Param} {main : Option Body} {bodies : Dict Body}
    {spot span : Span} {place : Iteration} {state middle later : RenderState}
    {first second : Option Value} {start omitted : Int} :
    let call : Call := { renderer.params render origin context list with
      main, bodies, filters := renderer.filters }
    let tag : Part := .element (.helper ⟨"sep", spot⟩) list main bodies span
    let overflows := Number.greatestInteger < place.length - omitted ∧ start ≤ place.index
    renderer.helpers.get? "sep" = Helper.builtins.get? "sep" → context.iteration? = some place →
      (call.get? "start").runFrom { state with pending := none } = (.ok first, middle) →
      GivesInteger 0 first start → (call.get? "end").runFrom middle = (.ok second, later) →
      GivesInteger 1 second omitted →
      (¬ overflows → (renderer.renderPart render origin context tag).runFrom state =
        (RenderM.gathered (call.renderSeparated (place.IsBetween start omitted))).runFrom state) ∧
      (overflows → (renderer.renderPart render origin context tag).runFrom state =
        (.error .overflow, later)) := by
  intro call tag overflows found placed asksStart startIs asksEnd endIs
  have isSeparator : renderer.helpers.get? "sep" = some Helper.separator := found
  have runs := @Helper.separator_runFrom call place placed start omitted _ _ _
    (startIs.runFrom_integerParam asksStart) (endIs.runFrom_integerParam asksEnd)
  constructor
  · intro inRange
    rw [if_neg inRange] at runs
    have asked : (call.renderSeparated (place.IsBetween start omitted)).runFrom
        { state with pending := none } =
          (if place.IsBetween start omitted then call.renderMain else pure ()).runFrom later := by
      simp only [Call.renderSeparated, RenderM.runFrom_bind, asksStart, asksEnd,
        decide_eq_true_eq]
    refine runFrom_renderHelper isSeparator ?_
    rw [runs, RenderM.runFrom_lift, RenderM.runFrom_lift, asked]
  · intro beyond
    rw [if_pos beyond] at runs
    simp only [tag, renderPart, renderHelper, isSeparator, RenderM.runFrom_bind,
      RenderM.runFrom_gathered]
    rw [runs]

/-- The parameters for the numbers of items to leave out. -/
def separatorParams (start omitted : Literal) : List Param :=
  [⟨⟨"start", default⟩, .literal start⟩, ⟨⟨"end", default⟩, .literal omitted⟩]

/-- How the tag of `sep` ends at a place in a list if its main body is a comma. -/
def separatorEnds (list : List Param) (place : Iteration) : Except Halt Unit × RenderState :=
  (Renderer.builtinRenderer.renderPart (Renderer.builtinRenderer.renderBody 1)
    ⟨⟨"", [], [], none⟩, 0⟩ [.value .null (some place)]
    (.element (.helper ⟨"sep", default⟩) list (some [.text ","]) [] default)).runFrom {}

/-- At both ends of the integers of 64 bits: the text of the least one leaves out nothing at the
start, and the place where the tag ends is the greatest one. -/
theorem Renderer.separates_between_extremes :
    Iteration.IsBetween ⟨1, 2⟩ Number.leastInteger (-9223372036854775805) ∧
      separatorEnds
        (separatorParams (.string "-9223372036854775808") (.integer (-9223372036854775805)))
        ⟨1, 2⟩ = (.ok (), { output := { text := "," } }) := by
  let place : Iteration := ⟨1, 2⟩
  let list := separatorParams (.string "-9223372036854775808") (.integer (-9223372036854775805))
  have startIs : GivesInteger 0 (some (.string "-9223372036854775808")) Number.leastInteger :=
    .given (.text (n := -9223372036854775808))
  have endIs : GivesInteger 1 (some (.integer (-9223372036854775805))) (-9223372036854775805) :=
    .given (.integer (n := -9223372036854775805))
  have inRange : ¬ (Number.greatestInteger < place.length - -9223372036854775805 ∧
      Number.leastInteger ≤ place.index) := by decide
  have between : place.IsBetween Number.leastInteger (-9223372036854775805) := by decide
  have renders := (@separates_between builtinRenderer (builtinRenderer.renderBody 1)
    ⟨⟨"", [], [], none⟩, 0⟩ [.value .null (some place)] list (some [.text ","]) [] default default
    place {} {} {} _ _ _ _ rfl rfl rfl startIs rfl endIs).1 inRange
  rw [decide_eq_true between] at renders
  exact ⟨between, renders⟩

/-- The least integer as the number of items to leave out at the end stops the program, though the
item is not left out. -/
theorem Renderer.separates_between_overflows :
    Iteration.IsBetween ⟨0, 2⟩ 0 Number.leastInteger ∧
      separatorEnds (separatorParams (.integer 0) (.integer (-9223372036854775808))) ⟨0, 2⟩ =
        (.error .overflow, {}) := by
  have between : Iteration.IsBetween ⟨0, 2⟩ 0 Number.leastInteger := by decide
  exact ⟨between, rfl⟩

end Dust
