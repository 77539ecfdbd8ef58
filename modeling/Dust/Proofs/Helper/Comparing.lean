import Dust.Helper.Builtin
import Dust.Proofs.Helper.Decision
import Dust.Proofs.Render.Append
import Dust.Proofs.Render.Parameters
import Dust.Proofs.Value.Swapped

/-!
# Comparisons the other way round

A comparison renders one of its bodies or none, and which one goes by the order of its key and its
value and by whether a comparison has matched before in the selection around. If the key and the
value of a tag change places, their order is turned round, so `gt` and `gte` choose as `lt` and
`lte` have chosen, in a selection too.
-/

namespace Dust

/-! ### What a comparison renders -/

/-- Whether a comparison has matched in a selection, if there is one. -/
def RenderState.isMatched (state : RenderState) (selection : Option Selection) : Bool :=
  selection.any fun selection => state.flags.getD selection.flag false

/-- The state in which the body of a choice is rendered. A match is noted in the selection. -/
def RenderState.noteChoice (state : RenderState) (selection : Option Selection) (choice : Choice) :
    RenderState :=
  { state with
    flags := match selection with
      | some selection =>
        if choice = .main then state.flags.set selection.flag true else state.flags
      | none => state.flags }

/-- A comparison chooses by what has matched before and by its test, notes a match, and renders the
body that it has chosen. -/
theorem Helper.decideComparison_runFrom (call : Call) (selection : Option Selection)
    (passes : Bool) (state : RenderState) :
    (decideComparison call selection passes).runFrom state =
      let choice := Choice.after (state.isMatched selection) passes
      (call.renderChosen choice).runFrom (state.noteChoice selection choice) := by
  rw [decideComparison_eq]
  cases selection with
  | none => cases passes <;> rfl
  | some selection =>
    unfold decideBy
    rw [RenderM.runFrom_bind, choose_runFrom]
    rfl

/-- The main body is chosen if nothing has matched before and the test is passed. -/
theorem Choice.after_eq_main {isMatched passes : Bool} :
    Choice.after isMatched passes = .main ↔ isMatched = false ∧ passes = true := by
  cases isMatched <;> cases passes <;> simp [Choice.after]

/-- From a state the call of a helper renders the body of a choice, whatever its bodies are. -/
def Renderer.Takes (renderer : Renderer) (context : Context) (helper : String) (list : List Param)
    (state : RenderState) (choice : Choice) : Prop :=
  ∀ (render : BodyRender) (origin : Origin) (place span : Span) (main : Option Body)
    (bodies : Dict Body),
    let call : Call := { renderer.params render origin context list with
      main, bodies, filters := renderer.filters }
    (renderer.renderPart render origin context
      (.element (.helper ⟨helper, place⟩) list main bodies span)).runFrom state =
        (RenderM.gathered (call.renderChosen choice)).runFrom
          (state.noteChoice context.selection? choice)

/-! ### The parameters of a comparison -/

namespace Params

variable (params : Params) (scope : Scope)

/-- The value of the parameter of a name that is not rendered, if it has one. -/
def valueOf? (name : String) : Option Value :=
  (params.find? name).bind (params.value? scope)

/-- What is written of the value of a parameter that is not rendered. -/
def textOf? (name : String) : Option String :=
  (Helper.present? (params.valueOf? scope name)).map Value.display

/-- The value of a parameter as a comparison takes it: converted, and nothing if there is none. -/
def comparedValue (name : String) : Value :=
  Helper.convertTo (params.textOf? scope "type") ((params.valueOf? scope name).getD .null)

variable {params}

/-- What is written of a parameter that is not rendered is found without any effect. -/
theorem runFrom_getText? (plain : params.IsPlain) (name : String) (state : RenderState) :
    (params.getText? name).runFrom state =
      (.ok (params.textOf? ⟨state.root, params.globals⟩ name), state) := by
  unfold getText?
  rw [RenderM.runFrom_bind, runFrom_get? plain]
  unfold textOf? valueOf?
  rcases (params.find? name).bind (params.value? ⟨state.root, params.globals⟩) with
    _ | (_ | _ | _ | _ | _ | _ | _) <;> rfl

end Params

/-- A comparison with a key and without strings with tags takes its values without any effect, and
decides by their order. -/
theorem Helper.comparison_runFrom {test : Option Ordering → Bool} {call : Call}
    (plain : call.IsPlain) (hasKey : call.has "key" = true) (state : RenderState) :
    (Renderer.runHelper call (comparison test)).runFrom state =
      let scope : Scope := ⟨state.root, call.globals⟩
      let order :=
        (call.comparedValue scope "key").looseCompare? (call.comparedValue scope "value")
      (liftM (decideComparison call call.context.selection? (test order)) :
        ExceptT RenderFault RenderM Unit).run.runFrom state := by
  have asksKey : (comparisonKey call call.context.selection?).run.runFrom state =
      (.ok (.ok ((call.valueOf? ⟨state.root, call.globals⟩ "key").getD .null)), state) := by
    unfold comparisonKey
    rw [if_pos hasKey, RenderM.runFrom_liftBind, Params.runFrom_get? plain]
    rfl
  unfold Renderer.runHelper comparison
  simp only
  rw [RenderM.runFrom_run_bind, asksKey]
  simp only
  rw [RenderM.runFrom_liftBind, Params.runFrom_get? plain]
  simp only
  rw [RenderM.runFrom_liftBind, Params.runFrom_getText? plain]
  rfl

namespace Renderer

variable (renderer : Renderer) (context : Context) (state : RenderState)

/-- The parameters of a tag as far as none of them is rendered. -/
def plainParams (list : List Param) : Params :=
  { list, context, globals := renderer.globals, render := fun _ _ => pure () }

/-- The order of the key and the value of a comparison. -/
def comparedOrder (list : List Param) : Option Ordering :=
  let scope : Scope := ⟨state.root, renderer.globals⟩
  let params := renderer.plainParams context list
  (params.comparedValue scope "key").looseCompare? (params.comparedValue scope "value")

variable {renderer context state} {helper : String} {test : Option Ordering → Bool}
  {list other : List Param}

/-- The body that the tag of a comparison renders is chosen by the order of its key and its
value. -/
theorem takes_comparison
    (found : renderer.helpers.get? helper = some (Helper.comparison test))
    (plain : (renderer.plainParams context list).IsPlain)
    (hasKey : (renderer.plainParams context list).has "key" = true) :
    renderer.Takes context helper list state
      (Choice.after (state.isMatched context.selection?)
        (test (renderer.comparedOrder context state list))) := by
  intro render origin place span main bodies call
  have runs := @Helper.comparison_runFrom test call plain hasKey
    { state with pending := none }
  rw [renderPart, runFrom_renderHelper found runs, RenderM.runFrom_gathered,
    RenderM.runFrom_gathered, Helper.decideComparison_runFrom]
  rfl

/-- Two lists of parameters are those of comparisons that have changed places: the key of each is
the value of the other. Their types are the same, and none of them is a string with tags. -/
structure Exchanged (renderer : Renderer) (context : Context) (list other : List Param) : Prop where
  /-- The parameters of the one are not rendered. -/
  plain : (renderer.plainParams context list).IsPlain
  /-- The parameters of the other one are not rendered. -/
  otherPlain : (renderer.plainParams context other).IsPlain
  /-- The one has a key. -/
  hasKey : (renderer.plainParams context list).has "key" = true
  /-- It is the value of the other one. -/
  key : (renderer.plainParams context other).find? "value" =
    (renderer.plainParams context list).find? "key"
  /-- The one has a value. -/
  hasValue : (renderer.plainParams context list).has "value" = true
  /-- It is the key of the other one. -/
  value : (renderer.plainParams context other).find? "key" =
    (renderer.plainParams context list).find? "value"
  /-- Both have the same type, if any. -/
  type : (renderer.plainParams context other).find? "type" =
    (renderer.plainParams context list).find? "type"

/-- The order of comparisons that have changed places is turned round. -/
theorem Exchanged.order (exchanged : Exchanged renderer context list other) :
    renderer.comparedOrder context state other =
      (renderer.comparedOrder context state list).map Ordering.swap := by
  unfold comparedOrder
  simp only [Params.comparedValue, Params.textOf?, Params.valueOf?, exchanged.key, exchanged.value,
    exchanged.type]
  exact Value.looseCompare?_swap _ _

/-- Comparisons that have changed places render the same body if the test of the one is that of the
other one, turned round. -/
theorem takes_exchanged {mirror : String} {turned : Option Ordering → Bool}
    (found : renderer.helpers.get? helper = some (Helper.comparison test))
    (foundMirror : renderer.helpers.get? mirror = some (Helper.comparison turned))
    (mirrors : ∀ order, turned (order.map Ordering.swap) = test order)
    (exchanged : Exchanged renderer context list other) (state : RenderState) :
    ∃ choice, renderer.Takes context helper list state choice ∧
      renderer.Takes context mirror other state choice ∧
      (choice = .main ↔ state.isMatched context.selection? = false ∧
        test (renderer.comparedOrder context state list) = true) := by
  have hasKey : (renderer.plainParams context other).has "key" = true := by
    rw [Params.has, exchanged.value]
    exact exchanged.hasValue
  have takes := @takes_comparison renderer context state mirror turned other foundMirror
    exchanged.otherPlain hasKey
  rw [exchanged.order, mirrors] at takes
  exact ⟨_, takes_comparison found exchanged.plain exchanged.hasKey, takes, Choice.after_eq_main⟩

/-- The parameters of a comparison that has a key and a value and nothing else. -/
def comparisonParams (key value : Argument) : List Param :=
  [⟨⟨"key", default⟩, key⟩, ⟨⟨"value", default⟩, value⟩]

/-- A key and a value that are no strings with tags can change places. -/
theorem exchanged_comparisonParams {key value : Argument}
    (plainKey : ∀ body, key ≠ .interpolated body)
    (plainValue : ∀ body, value ≠ .interpolated body) :
    Exchanged renderer context (comparisonParams key value) (comparisonParams value key) where
  plain := by simp [Params.IsPlain, plainParams, comparisonParams, plainKey, plainValue]
  otherPlain := by simp [Params.IsPlain, plainParams, comparisonParams, plainKey, plainValue]
  hasKey := rfl
  key := rfl
  hasValue := rfl
  value := rfl
  type := rfl

end Renderer

/-- Two values that change places have the opposite loose order, and are loosely equal if they were.
So the tag of `lt` with a key and a value renders the same body as the tag of `gt` with the two
exchanged, and `lte` the same as `gte`, whatever their values are and in any selection. It is the
main body exactly if nothing has matched before and the order is as the name says. -/
theorem Value.looseCompare?_mirrored :
    (∀ a b : Value, b.looseCompare? a = (a.looseCompare? b).map Ordering.swap ∧
      b.looseEq a = a.looseEq b) ∧
    ∀ (renderer : Renderer) (context : Context) (state : RenderState) (list other : List Param),
      (∀ helper ∈ ["lt", "lte", "gt", "gte"],
        renderer.helpers.get? helper = Helper.builtins.get? helper) →
      Renderer.Exchanged renderer context list other →
      let order := renderer.comparedOrder context state list
      let isMatched := state.isMatched context.selection?
      (∃ choice, renderer.Takes context "lt" list state choice ∧
        renderer.Takes context "gt" other state choice ∧
        (choice = .main ↔ isMatched = false ∧ order = some .lt)) ∧
      ∃ choice, renderer.Takes context "lte" list state choice ∧
        renderer.Takes context "gte" other state choice ∧
        (choice = .main ↔ isMatched = false ∧ (order = some .lt ∨ order = some .eq)) := by
  refine ⟨fun a b => ⟨looseCompare?_swap a b, looseEq_comm b a⟩, ?_⟩
  intro renderer context state list other helpers exchanged order isMatched
  constructor
  · have found : renderer.helpers.get? "lt" =
        some (Helper.comparison fun order => order = some .lt) := helpers "lt" (by simp)
    have foundMirror : renderer.helpers.get? "gt" =
        some (Helper.comparison fun order => order = some .gt) := helpers "gt" (by simp)
    have mirrors (order : Option Ordering) : decide (order.map Ordering.swap = some .gt) =
        decide (order = some .lt) := by
      rcases order with _ | (_ | _ | _) <;> rfl
    simpa only [decide_eq_true_eq] using
      Renderer.takes_exchanged found foundMirror mirrors exchanged state
  · have found : renderer.helpers.get? "lte" = some (Helper.comparison fun order =>
        order = some .lt ∨ order = some .eq) := helpers "lte" (by simp)
    have foundMirror : renderer.helpers.get? "gte" = some (Helper.comparison fun order =>
        order = some .gt ∨ order = some .eq) := helpers "gte" (by simp)
    have mirrors (order : Option Ordering) :
        decide (order.map Ordering.swap = some .gt ∨ order.map Ordering.swap = some .eq) =
          decide (order = some .lt ∨ order = some .eq) := by
      rcases order with _ | (_ | _ | _) <;> rfl
    simpa only [decide_eq_true_eq] using
      Renderer.takes_exchanged found foundMirror mirrors exchanged state

/-- The name of a value as an argument. -/
def namedValue (name : String) : Argument :=
  .path ⟨.relative, [.name name], default⟩

/-- In a selection nine is less than the text of ten, and the text of ten is greater than nine. -/
theorem Value.looseCompare?_mirrored_ten :
    let state : RenderState :=
      { root := .map [("a", .integer 9), ("b", .string " 10 ")], flags := [false] }
    let context : Context := [.selection ⟨.null, 0⟩]
    (Value.string " 10 ").looseCompare? (.integer 9) = some .gt ∧
      Renderer.builtinRenderer.Takes context "lt"
        (Renderer.comparisonParams (namedValue "a") (namedValue "b")) state .main ∧
      Renderer.builtinRenderer.Takes context "gt"
        (Renderer.comparisonParams (namedValue "b") (namedValue "a")) state .main := by
  intro state context
  have less : (Value.integer 9).looseCompare? (.string " 10 ") = some .lt := by decide
  obtain ⟨reversed, tags⟩ := Value.looseCompare?_mirrored
  obtain ⟨⟨choice, takes, takesMirror, isMain⟩, -⟩ := tags Renderer.builtinRenderer context state
    (Renderer.comparisonParams (namedValue "a") (namedValue "b"))
    (Renderer.comparisonParams (namedValue "b") (namedValue "a")) (fun _ _ => rfl)
    (Renderer.exchanged_comparisonParams nofun nofun)
  obtain rfl : choice = .main := isMain.mpr ⟨rfl, less⟩
  exact ⟨by rw [(reversed _ _).1, less]; rfl, takes, takesMirror⟩

end Dust
