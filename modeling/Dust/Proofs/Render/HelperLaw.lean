import Dust.Helper.Builtin
import Dust.Proofs.Helper.Decision
import Dust.Render.Evaluate

/-!
# The helpers that are always there, step by step

None of these helpers looks at the output, at its error or at the store: each is made of the
elementary steps, of looking at its parameters and of rendering its bodies. So every relation with
the laws of steps holds between two runs of such a helper whose strings and bodies are rendered in
related ways. Where a helper decides something, another decision may stand in the place of its own
if the two are related.
-/

namespace Dust

/-- The helpers that are always there, with the names that they have. -/
inductive Helper.Builtin : String → Helper → Prop where
  | comparison {name : String} {test : Option Ordering → Bool}
    (named : Helper.tests.get? name = some test) : Builtin name (Helper.comparison test)
  | select : Builtin "select" Helper.select
  | any : Builtin "any" (Helper.whenResolved "any" true)
  | none : Builtin "none" (Helper.whenResolved "none" false)
  | math : Builtin "math" Helper.math
  | first : Builtin "first" (Helper.whenPlaced fun iteration => iteration.index = 0)
  | last : Builtin "last"
    (Helper.whenPlaced fun iteration => iteration.index + 1 = iteration.length)
  | separator : Builtin "sep" Helper.separator
  | condition : Builtin "if" Helper.condition
  | default : Builtin "default" Helper.default
  | size : Builtin "size" Helper.size
  | look : Builtin "get" Helper.look
  | contextDump : Builtin "contextDump" Helper.contextDump
  | set : Builtin "set" (Helper.change "set" Helper.changeKeyValue)
  | unset : Builtin "unset" (Helper.change "unset" Helper.removeKey)

/-- A helper that is always there is one of a few kinds. -/
theorem Helper.builtin_cases {name : String} {helper : Helper}
    (builtin : (name, helper) ∈ Helper.builtins) : Helper.Builtin name helper := by
  have listed := Dict.mem_ofList builtin
  simp only [Helper.comparisons, Helper.positions, Helper.inspections, Helper.changes,
    List.cons_append, List.nil_append, List.mem_cons, Prod.mk.injEq, List.not_mem_nil,
    or_false] at listed
  rcases listed with
    ⟨rfl, rfl⟩ | ⟨rfl, rfl⟩ | ⟨rfl, rfl⟩ | ⟨rfl, rfl⟩ | ⟨rfl, rfl⟩ | ⟨rfl, rfl⟩ | ⟨rfl, rfl⟩ |
    ⟨rfl, rfl⟩ | ⟨rfl, rfl⟩ | ⟨rfl, rfl⟩ | ⟨rfl, rfl⟩ | ⟨rfl, rfl⟩ | ⟨rfl, rfl⟩ | ⟨rfl, rfl⟩ |
    ⟨rfl, rfl⟩ | ⟨rfl, rfl⟩ | ⟨rfl, rfl⟩ | ⟨rfl, rfl⟩ | ⟨rfl, rfl⟩ | ⟨rfl, rfl⟩ | ⟨rfl, rfl⟩
  iterate 7 exact .comparison rfl
  · exact .select
  · exact .any
  · exact .none
  · exact .math
  · exact .first
  · exact .last
  · exact .separator
  · exact .condition
  · exact .default
  · exact .size
  · exact .look
  · exact .contextDump
  · exact .set
  · exact .unset

/-- The names of the helpers that leave the data alone and look at them only by the paths in their
tags: all helpers that are always there but `math`, `contextDump`, `set` and `unset`. -/
def Helper.pathBound : List String :=
  ["eq", "ne", "not", "lt", "lte", "gt", "gte", "select", "any", "none", "first", "last", "sep",
    "if", "default", "size", "get"]

namespace CalmLaw

open Renderer (runHelper)

variable {Rel : StepRel} (law : CalmLaw Rel) {call : Call} {render : Context → Body → RenderM Unit}
  (resolves : ∀ param ∈ call.list,
    Rel (call.resolve param.argument) ((call.withRender render).resolve param.argument))
  (bodies : ∀ frames body, (∀ frame ∈ frames, frame.IsPlain) → call.Holds body →
    Rel (call.render (frames ++ call.context) body) (render (frames ++ call.context) body))

section Parameters

include law resolves

/-- Finding the key of a comparison is related. -/
theorem comparisonKey (selection : Option Selection) :
    Rel (Helper.comparisonKey call selection).run
      (Helper.comparisonKey (call.withRender render) selection).run := by
  have same : (call.withRender render).has "key" = call.has "key" := rfl
  unfold Helper.comparisonKey
  rw [same]
  split
  · exact law.liftBind (law.lift (law.get? resolves "key")) fun value => law.pure _
  · cases selection with
    | some selection => exact law.pure _
    | none => exact law.pure _

/-- Finding the integer of a parameter is related. -/
theorem integerParam (name : String) (otherwise : Int) :
    Rel (Helper.integerParam call name otherwise)
      (Helper.integerParam (call.withRender render) name otherwise) := by
  refine law.bind (law.get? resolves name) fun value => ?_
  split <;> exact law.pure _

/-- The helper that tells a size is related. -/
theorem size_run :
    Rel (runHelper call Helper.size) (runHelper (call.withRender render) Helper.size) := by
  refine law.bind ?_ fun result => ?_
  · refine law.liftBind (law.lift (law.get? resolves "key")) fun value => ?_
    cases value <;> exact law.pure _
  · cases result with
    | ok value => exact law.bind (law.write _) fun _ => law.pure _
    | error fault => exact law.pure _

/-- The helper that looks into a value is related. -/
theorem look_run :
    Rel (runHelper call Helper.look) (runHelper (call.withRender render) Helper.look) := by
  refine law.bind ?_ fun result => ?_
  · refine law.liftBind (law.lift (law.get? resolves "object")) fun object => ?_
    cases object with
    | none => exact law.pure _
    | some object =>
      refine law.liftBind (law.lift (law.getText? resolves "key")) fun key => ?_
      cases key <;> exact law.pure _
  · cases result with
    | ok value => exact law.bind (law.write _) fun _ => law.pure _
    | error fault => exact law.pure _

/-- Finding the key of a change is related. -/
theorem requestedKey :
    Rel (Helper.requestedKey call.get?).run
      (Helper.requestedKey (call.withRender render).get?).run := by
  refine law.liftBind (law.lift (law.get? resolves "key")) fun value => ?_
  split <;> exact law.pure _

/-- Finding the change that `set` is asked for is related. -/
theorem requestSet :
    Rel (Helper.requestSet call.has call.get?).run
      (Helper.requestSet (call.withRender render).has (call.withRender render).get?).run := by
  have same : (call.withRender render).has = call.has := rfl
  unfold Helper.requestSet
  rw [same]
  refine law.liftBind (law.requestedKey resolves) fun key => ?_
  refine law.liftBind (law.lift (law.get? resolves "value")) fun given => ?_
  cases given with
  | some given => exact law.pure _
  | none =>
    simp only
    split
    · exact law.pure _
    · refine law.liftBind (law.lift (law.get? resolves _)) fun operand => ?_
      cases operand with
      | none => exact law.pure _
      | some operand =>
        simp only
        split <;> exact law.pure _

/-- Finding the change that `unset` is asked for is related. -/
theorem requestUnset :
    Rel (Helper.requestUnset call.get?).run
      (Helper.requestUnset (call.withRender render).get?).run :=
  law.liftBind (law.requestedKey resolves) fun _ => law.pure _

end Parameters

section Bodies

include law bodies

/-- Rendering the body that is chosen is related. -/
theorem renderChosen (choice : Choice) :
    Rel (call.renderChosen choice) ((call.withRender render).renderChosen choice) := by
  cases choice with
  | main => exact renderMain bodies
  | other => exact law.renderElse bodies
  | nothing => exact law.pure _

/-- Rendering the body that the outcome of a comparison asks for is related if choosing is. -/
theorem decideBy {choose choose' : Selection → Bool → RenderM Choice}
    (chooses : ∀ selection passes, Rel (choose selection passes) (choose' selection passes))
    (selection : Option Selection) (passes : Bool) :
    Rel (Helper.decideBy choose call selection passes)
      (Helper.decideBy choose' (call.withRender render) selection passes) := by
  cases selection with
  | some selection =>
    exact law.bind (chooses selection passes) fun choice => law.renderChosen bodies choice
  | none =>
    cases passes with
    | true => exact renderMain bodies
    | false => exact law.renderElse bodies

/-- A helper that asks whether a comparison has matched is related if asking is. -/
theorem whenResolvedBy_run {ask ask' : Selection → Bool → RenderM Bool}
    (asks : ∀ selection wants, Rel (ask selection wants) (ask' selection wants)) (name : String)
    (resolved : Bool) :
    Rel (runHelper call (Helper.whenResolvedBy ask name resolved))
      (runHelper (call.withRender render) (Helper.whenResolvedBy ask' name resolved)) := by
  have same : (call.withRender render).context = call.context := rfl
  unfold Helper.whenResolvedBy runHelper
  simp only
  rw [same]
  cases call.context.selection? with
  | none => exact law.pure _
  | some selection =>
    refine law.liftBind (law.lift (asks selection resolved)) fun found => ?_
    split
    · exact law.lift (renderMain bodies)
    · exact law.pure _

/-- A helper that asks whether a comparison has matched is related. -/
theorem whenResolved_run (name : String) (resolved : Bool) :
    Rel (runHelper call (Helper.whenResolved name resolved))
      (runHelper (call.withRender render) (Helper.whenResolved name resolved)) := by
  rw [Helper.whenResolved_eq]
  exact law.whenResolvedBy_run bodies (fun selection _ => law.isResolved selection) name resolved

/-- A helper that asks for the place in a list is related. -/
theorem whenPlaced_run (test : Iteration → Bool) :
    Rel (runHelper call (Helper.whenPlaced test))
      (runHelper (call.withRender render) (Helper.whenPlaced test)) := by
  have same : (call.withRender render).context = call.context := rfl
  unfold Helper.whenPlaced runHelper
  simp only
  rw [same]
  split
  · exact law.lift (renderMain bodies)
  · exact law.pure _

end Bodies

section All

include law resolves bodies

/-- The helper that begins a selection is related. -/
theorem select_run :
    Rel (runHelper call Helper.select) (runHelper (call.withRender render) Helper.select) := by
  have same : (call.withRender render).has "key" = call.has "key" := rfl
  unfold Helper.select runHelper
  simp only
  rw [same]
  split
  · refine law.liftBind (law.lift (law.get? resolves "key")) fun value => ?_
    refine law.liftBind (law.lift (law.getText? resolves "type")) fun type => ?_
    refine law.lift (law.withFlag fun flag => ?_)
    exact renderMainIn bodies [.selection ⟨_, flag⟩] (by simp [Frame.IsPlain])
  · exact law.pure _

/-- The helper that renders between items is related. -/
theorem separator_run :
    Rel (runHelper call Helper.separator)
      (runHelper (call.withRender render) Helper.separator) := by
  have same : (call.withRender render).context = call.context := rfl
  unfold Helper.separator runHelper
  simp only
  rw [same]
  cases call.context.iteration? with
  | none => exact law.pure _
  | some iteration =>
    refine law.liftBind (law.lift (law.integerParam resolves "start" 0)) fun start => ?_
    refine law.liftBind (law.lift (law.integerParam resolves "end" 1)) fun omitted => ?_
    split
    · exact law.lift law.overflow
    · split
      · exact law.lift (renderMain bodies)
      · exact law.pure _

/-- The helper that tests a condition is related. -/
theorem condition_run :
    Rel (runHelper call Helper.condition)
      (runHelper (call.withRender render) Helper.condition) := by
  have same : (call.withRender render).has "cond" = call.has "cond" := rfl
  unfold Helper.condition runHelper
  simp only
  rw [same]
  split
  · refine law.liftBind (law.lift (law.get? resolves "cond")) fun value => ?_
    split
    · exact law.lift (renderMain bodies)
    · exact law.lift (law.renderElse bodies)
  · exact law.pure _

/-- A comparison is related if choosing in a selection is. -/
theorem comparisonBy_run {choose choose' : Selection → Bool → RenderM Choice}
    (chooses : ∀ selection passes, Rel (choose selection passes) (choose' selection passes))
    (test : Option Ordering → Bool) :
    Rel (runHelper call (Helper.comparisonBy choose test))
      (runHelper (call.withRender render) (Helper.comparisonBy choose' test)) := by
  refine law.liftBind (law.comparisonKey resolves _) fun key => ?_
  refine law.liftBind (law.lift (law.get? resolves "value")) fun value => ?_
  refine law.liftBind (law.lift (law.getText? resolves "type")) fun type => ?_
  exact law.lift (law.decideBy bodies chooses _ _)

/-- The helper that replaces a missing value is related if asking for a match is. -/
theorem defaultBy_run {ask ask' : Selection → Bool → RenderM Bool}
    (asks : ∀ selection wants, Rel (ask selection wants) (ask' selection wants)) :
    Rel (runHelper call (Helper.defaultBy ask))
      (runHelper (call.withRender render) (Helper.defaultBy ask')) := by
  have sameKey : (call.withRender render).has "key" = call.has "key" := rfl
  have sameContext : (call.withRender render).context = call.context := rfl
  unfold Helper.defaultBy runHelper
  simp only
  rw [sameKey, sameContext]
  split
  · refine law.liftBind (law.lift (law.get? resolves "key")) fun value => ?_
    split
    · exact law.lift (law.write _)
    · refine law.liftBind (law.lift (law.get? resolves "value")) fun given => ?_
      cases given with
      | some given => exact law.lift (law.write _)
      | none => exact law.pure _
  · cases call.context.selection? with
    | none => exact law.pure _
    | some selection =>
      refine law.liftBind (law.lift (asks selection false)) fun resolved => ?_
      split
      · exact law.lift (renderMain bodies)
      · exact law.pure _

/-- The helper that replaces a missing value is related. -/
theorem default_run :
    Rel (runHelper call Helper.default) (runHelper (call.withRender render) Helper.default) := by
  rw [Helper.default_eq]
  exact law.defaultBy_run resolves bodies fun selection _ => law.isResolved selection

end All

section Changes

include law

/-- A helper that changes the data is related if its change is. -/
theorem change_run (name : String) {run run' : Call → Helper.ChangeM Unit}
    (related : Rel (run call).run (run' (call.withRender render)).run) :
    Rel (runHelper call (Helper.change name run))
      (runHelper (call.withRender render) (Helper.change name run')) := by
  refine law.liftBind (law.lift related) fun result => ?_
  cases result with
  | ok _ => exact law.pure _
  | error fault => exact law.lift (law.write _)

include resolves

variable {perform perform' : Helper.Change → Helper.ChangeM Unit}
  (performs : ∀ change, Rel (perform change).run (perform' change).run)

include performs

/-- The helper `set` is related if making changes is. -/
theorem setBy_run (name : String) :
    Rel (runHelper call (Helper.changeBy perform name Helper.askedToSet))
      (runHelper (call.withRender render) (Helper.changeBy perform' name Helper.askedToSet)) :=
  law.change_run name (law.liftBind (law.requestSet resolves) performs)

/-- The helper `unset` is related if making changes is. -/
theorem unsetBy_run (name : String) :
    Rel (runHelper call (Helper.changeBy perform name Helper.askedToUnset))
      (runHelper (call.withRender render) (Helper.changeBy perform' name Helper.askedToUnset)) :=
  law.change_run name (law.liftBind (law.requestUnset resolves) performs)

end Changes

end CalmLaw

namespace FlowLaw

open Renderer (runHelper)

variable {Rel : StepRel} (law : FlowLaw Rel) {call : Call} {render : Context → Body → RenderM Unit}
  (resolves : ∀ param ∈ call.list,
    Rel (call.resolve param.argument) ((call.withRender render).resolve param.argument))
  (bodies : ∀ frames body, (∀ frame ∈ frames, frame.IsPlain) → call.Holds body →
    Rel (call.render (frames ++ call.context) body) (render (frames ++ call.context) body))

include law

/-- Choosing what a comparison renders is related to itself. -/
theorem choose (selection : Selection) (passes : Bool) :
    Rel (Helper.choose selection passes) (Helper.choose selection passes) := by
  refine law.bind (law.isResolved selection) fun resolved => ?_
  split
  · exact law.pure _
  · split
    · exact law.bind (law.resolve selection) fun _ => law.pure _
    · exact law.pure _

include resolves bodies

/-- A comparison is related. -/
theorem comparison_run (test : Option Ordering → Bool) :
    Rel (runHelper call (Helper.comparison test))
      (runHelper (call.withRender render) (Helper.comparison test)) := by
  rw [Helper.comparison_eq]
  exact law.comparisonBy_run resolves bodies law.choose test

/-- Every helper that looks at the data only by paths is related. -/
theorem pathBound_run {name : String} {helper : Helper} (isBound : name ∈ Helper.pathBound)
    (builtin : (name, helper) ∈ Helper.builtins) :
    Rel (runHelper call helper) (runHelper (call.withRender render) helper) := by
  cases Helper.builtin_cases builtin with
  | comparison => exact law.comparison_run resolves bodies _
  | select => exact law.select_run resolves bodies
  | any => exact law.whenResolved_run bodies _ _
  | none => exact law.whenResolved_run bodies _ _
  | first => exact law.whenPlaced_run bodies _
  | last => exact law.whenPlaced_run bodies _
  | separator => exact law.separator_run resolves bodies
  | condition => exact law.condition_run resolves bodies
  | default => exact law.default_run resolves bodies
  | size => exact law.size_run resolves
  | look => exact law.look_run resolves
  | math => exact absurd isBound (by decide)
  | contextDump => exact absurd isBound (by decide)
  | set => exact absurd isBound (by decide)
  | unset => exact absurd isBound (by decide)

end FlowLaw

namespace ReadLaw

open Renderer (runHelper)

variable {Rel : StepRel} (law : ReadLaw Rel) {call : Call} {render : Context → Body → RenderM Unit}
  (resolves : ∀ param ∈ call.list,
    Rel (call.resolve param.argument) ((call.withRender render).resolve param.argument))
  (bodies : ∀ frames body, (∀ frame ∈ frames, frame.IsPlain) → call.Holds body →
    Rel (call.render (frames ++ call.context) body) (render (frames ++ call.context) body))

include law resolves

/-- Finding the first operand of a calculation is related. -/
theorem calculationKey :
    Rel (Helper.calculationKey call).run (Helper.calculationKey (call.withRender render)).run := by
  have same : (call.withRender render).isLiteralText "key" = call.isLiteralText "key" := rfl
  unfold Helper.calculationKey
  rw [same]
  refine law.liftBind (law.lift (law.get? resolves "key")) fun value => ?_
  split
  · exact law.pure _
  · split
    · exact law.liftBind (law.lift (law.scope call.toParams)) fun scope => law.pure _
    · exact law.pure _
  · exact law.pure _

/-- Finding the operation of a calculation is related. -/
theorem calculationMethod :
    Rel (Helper.calculationMethod call).run
      (Helper.calculationMethod (call.withRender render)).run := by
  have same : (call.withRender render).has = call.has := rfl
  unfold Helper.calculationMethod
  rw [same]
  refine law.liftBind (law.lift (law.getText? resolves "method")) fun method => ?_
  cases method with
  | some method =>
    simp only
    split
    · exact law.liftBind (law.lift (law.get? resolves "operand")) fun operand => law.pure _
    · exact law.pure _
  | none =>
    simp only
    split
    · exact law.liftBind (law.lift (law.get? resolves _)) fun operand => law.pure _
    · exact law.pure _

/-- The helper that writes the context is related. -/
theorem contextDump_run :
    Rel (runHelper call Helper.contextDump)
      (runHelper (call.withRender render) Helper.contextDump) := by
  refine law.liftBind (law.lift (law.getText? resolves "key")) fun extent => ?_
  refine law.liftBind (law.lift (law.scope call.toParams)) fun scope => ?_
  refine law.liftBind (law.lift (law.getText? resolves "to")) fun goal => ?_
  split
  · exact law.lift (law.write _)
  · exact law.pure _

include bodies

/-- The helper that calculates is related. -/
theorem math_run :
    Rel (runHelper call Helper.math) (runHelper (call.withRender render) Helper.math) := by
  have same : (call.withRender render).main = call.main := rfl
  unfold Helper.math runHelper
  simp only
  rw [same]
  refine law.liftBind (law.calculationKey resolves) fun key => ?_
  refine law.liftBind (law.calculationMethod resolves) fun method => ?_
  obtain ⟨operation, operand⟩ := method
  simp only
  split
  · exact law.lift law.overflow
  · exact law.pure _
  · rename_i result _
    split
    · refine law.lift (law.withFlag fun flag => ?_)
      exact CalmLaw.renderMainIn bodies
        [.selection ⟨result.toValue, flag⟩, .value result.toValue none] (by simp [Frame.IsPlain])
    · exact law.lift (law.write _)

end ReadLaw

namespace StepLaw

open Renderer (runHelper)

variable {Rel : StepRel} (law : StepLaw Rel) {call : Call} {render : Context → Body → RenderM Unit}

include law

/-- Replacing the data is related to itself. -/
theorem replaceEntries (entries : Dict Value) :
    Rel (Helper.replaceEntries entries).run (Helper.replaceEntries entries).run :=
  law.bind (law.change fun _ flags => (.map entries, flags)) fun _ => law.pure _

/-- Looking at the entries of the data is related to itself. -/
theorem rootEntries : Rel Helper.rootEntries.run Helper.rootEntries.run := by
  have parts : Helper.rootEntries.run = (do
      let root ← (do let state ← get; return state.root : RenderM Value)
      (Helper.entriesOf root).run) := rfl
  rw [parts]
  refine law.bind (law.read fun root _ => root) fun root => ?_
  unfold Helper.entriesOf
  split
  · exact law.liftBind (law.replaceEntries []) fun _ => law.pure _
  · exact law.pure _
  · exact law.pure _

/-- Applying an operation to the value of a key is related to itself. -/
theorem changeByOperation (key : String) (operation : Operation) (operand : Value) :
    Rel (Helper.changeByOperation key operation operand).run
      (Helper.changeByOperation key operation operand).run := by
  refine law.liftBind law.rootEntries fun entries => ?_
  refine law.liftBind (law.replaceEntries _) fun _ => ?_
  split
  · exact law.lift law.overflow
  · exact law.pure _
  · exact law.replaceEntries _

/-- Making a change is related to itself. -/
theorem perform (change : Helper.Change) : Rel change.perform.run change.perform.run := by
  cases change with
  | put key given => exact law.liftBind law.rootEntries fun entries => law.replaceEntries _
  | calculate key operation operand => exact law.changeByOperation key operation operand
  | remove key => exact law.liftBind law.rootEntries fun entries => law.replaceEntries _

/-- Every helper that is always there is related. -/
theorem builtin_run
    (strings : ∀ body, Quoted call.list body →
      Rel (call.resolve (.interpolated body))
        ((call.withRender render).resolve (.interpolated body)))
    (bodies : ∀ frames body, (∀ frame ∈ frames, frame.IsPlain) → call.Holds body →
      Rel (call.render (frames ++ call.context) body) (render (frames ++ call.context) body))
    {name : String} {helper : Helper} (builtin : (name, helper) ∈ Helper.builtins) :
    Rel (runHelper call helper) (runHelper (call.withRender render) helper) := by
  have resolves := law.resolves strings
  cases Helper.builtin_cases builtin with
  | comparison => exact law.comparison_run resolves bodies _
  | select => exact law.select_run resolves bodies
  | any => exact law.whenResolved_run bodies _ _
  | none => exact law.whenResolved_run bodies _ _
  | math => exact law.math_run resolves bodies
  | first => exact law.whenPlaced_run bodies _
  | last => exact law.whenPlaced_run bodies _
  | separator => exact law.separator_run resolves bodies
  | condition => exact law.condition_run resolves bodies
  | default => exact law.default_run resolves bodies
  | size => exact law.size_run resolves
  | look => exact law.look_run resolves
  | contextDump => exact law.contextDump_run resolves
  | set =>
    rw [Helper.set_eq]
    exact law.setBy_run resolves law.perform _
  | unset =>
    rw [Helper.unset_eq]
    exact law.unsetBy_run resolves law.perform _

end StepLaw

end Dust
