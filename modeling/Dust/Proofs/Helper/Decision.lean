import Dust.Proofs.Helper.Change

/-!
# Helpers and what they decide

Some helpers decide something by the state of a render: which body a comparison in a selection
renders, whether a comparison has matched, and what becomes of the data. Here the decision is taken
out of the helper, so that another one can be put in its place. With the decision it has, each of
them is the helper that it is made from.
-/

namespace Dust

/-- The body that a comparison in a selection renders. -/
inductive Choice where
  /-- The main body. -/
  | main
  /-- The body for the other case. -/
  | other
  /-- No body. -/
  | nothing
  deriving DecidableEq

/-- The body that a comparison renders, by whether one has matched before and whether it passes. -/
def Choice.after (isMatched passes : Bool) : Choice :=
  if isMatched then .nothing else if passes then .main else .other

/-- Renders the body that is chosen. -/
def Call.renderChosen (call : Call) : Choice → RenderM Unit
  | .main => call.renderMain
  | .other => call.renderElse
  | .nothing => return

namespace Helper

/-- Decides which body a comparison in a selection renders, and notes a match. -/
def choose (selection : Selection) (passes : Bool) : RenderM Choice := do
  if ← RenderM.isResolved selection then return .nothing
  else if passes then
    RenderM.resolve selection
    return .main
  else return .other

/-- What is chosen goes by whether a comparison has matched before. The flag is set by the one that
renders its main body, and otherwise nothing is changed. -/
theorem choose_runFrom (selection : Selection) (passes : Bool) (state : RenderState) :
    (choose selection passes).runFrom state =
      let choice := Choice.after (state.flags.getD selection.flag false) passes
      (.ok choice,
        { state with
          flags := if choice = .main then state.flags.set selection.flag true else state.flags }) := by
  have asks : (RenderM.isResolved selection).runFrom state =
      (.ok (state.flags.getD selection.flag false), state) := rfl
  unfold choose
  rw [RenderM.runFrom_bind, asks]
  cases state.flags.getD selection.flag false <;> cases passes <;> rfl

/-- Renders the body that the outcome of a test asks for, with a way to choose in a selection. -/
def decideBy (choose : Selection → Bool → RenderM Choice) (call : Call)
    (selection : Option Selection) (passes : Bool) : RenderM Unit := do
  match selection with
  | some selection => call.renderChosen (← choose selection passes)
  | none => if passes then call.renderMain else call.renderElse

/-- A comparison in a selection renders the body that is chosen. -/
theorem decideComparison_eq : decideComparison = decideBy choose := by
  funext call selection passes
  cases selection with
  | none => rfl
  | some selection =>
    unfold decideComparison decideBy choose
    simp only [bind_assoc]
    refine bind_congr fun resolved => ?_
    cases resolved <;> cases passes <;> simp [Call.renderChosen]

/-- The comparison with a test on the order of two values, with a way to choose in a selection. -/
def comparisonBy (choose : Selection → Bool → RenderM Choice) (test : Option Ordering → Bool) :
    Helper :=
  .block fun call => do
    let selection := call.context.selection?
    let key ← comparisonKey call selection
    let value := (← call.get? "value").getD .null
    let type ← call.getText? "type"
    let order := (convertTo type key).looseCompare? (convertTo type value)
    decideBy choose call selection (test order)

/-- A comparison chooses by the flag of the selection. -/
theorem comparison_eq : comparison = comparisonBy choose := by
  unfold comparison
  rw [decideComparison_eq]
  rfl

/-- The tests of the comparisons by name. -/
def tests : Dict (Option Ordering → Bool) :=
  [("eq", fun order => order = some .eq),
   ("ne", fun order => order ≠ some .eq),
   ("not", fun order => order ≠ some .eq),
   ("lt", fun order => order = some .lt),
   ("lte", fun order => order = some .lt ∨ order = some .eq),
   ("gt", fun order => order = some .gt),
   ("gte", fun order => order = some .gt ∨ order = some .eq)]

/-- The helper that renders its body if it is known whether a comparison has matched, with a way to
ask. -/
def whenResolvedBy (ask : Selection → Bool → RenderM Bool) (name : String) (resolved : Bool) :
    Helper :=
  .block fun call => do
    match call.context.selection? with
    | none => throw (.outsideSelection name)
    | some selection => if (← ask selection resolved) = resolved then call.renderMain

/-- The helper asks for the flag of the selection. -/
theorem whenResolved_eq :
    whenResolved = whenResolvedBy fun selection _ => RenderM.isResolved selection := rfl

/-- The helper that replaces a missing value, with a way to ask whether a comparison has matched. -/
def defaultBy (ask : Selection → Bool → RenderM Bool) : Helper :=
  .block fun call => do
    if call.has "key" then
      match present? (← call.get? "key") with
      | some found => call.writeValue found
      | none =>
        match ← call.get? "value" with
        | some given => call.writeValue given
        | none => return
    else
      match call.context.selection? with
      | none => throw (.missingParameter "default" "key")
      | some selection => if !(← ask selection false) then call.renderMain

/-- The helper asks for the flag of the selection. -/
theorem default_eq : default = defaultBy fun selection _ => RenderM.isResolved selection := rfl

/-- The helper that makes the change it is asked for, with a way to make it. -/
def changeBy (perform : Change → ChangeM Unit) (name : String)
    (request : Call → ChangeM Change) : Helper :=
  change name fun call => request call >>= perform

/-- The change that `set` is asked for by a call. -/
def askedToSet (call : Call) : ChangeM Change :=
  requestSet call.has call.get?

/-- The change that `unset` is asked for by a call. -/
def askedToUnset (call : Call) : ChangeM Change :=
  requestUnset call.get?

/-- The helper `set` makes the change it is asked for. -/
theorem set_eq (name : String) :
    change name changeKeyValue = changeBy Change.perform name askedToSet := by
  unfold changeBy askedToSet
  rw [← funext changeKeyValue_eq]

/-- The helper `unset` makes the change it is asked for. -/
theorem unset_eq (name : String) :
    change name removeKey = changeBy Change.perform name askedToUnset := by
  unfold changeBy askedToUnset
  rw [← funext removeKey_eq]

end Helper

end Dust
