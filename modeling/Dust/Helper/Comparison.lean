import Dust.Render.Helper
import Dust.Value.Comparison

/-!
# Comparing and selecting

A comparison renders its main body if its test passes, and otherwise its other body. In a selection
comparisons share a key and a flag: once one has matched, the others render nothing.
-/

namespace Dust.Helper

/-- A value converted to a type, which may be unknown and then changes nothing. -/
def convert (type : String) (value : Value) : Value :=
  match type with
  | "number" =>
    match value.quantity? with
    | some quantity => quantity.toValue
    | none => .integer 0
  | "string" => .string value.display
  | "boolean" =>
    match value with
    | .string "false" => .bool false
    | _ => .bool value.isTruthy
  | _ => value

/-- A value converted to a type if one is given. -/
def convertTo (type : Option String) (value : Value) : Value :=
  match type with
  | some type => convert type value
  | none => value

/-- Finds the key of a comparison: its parameter, or else that of the selection around. -/
def comparisonKey (call : Call) (selection : Option Selection) : HelperM Value := do
  if call.has "key" then return (← call.get? "key").getD .null
  else
    match selection with
    | some selection => return selection.key
    | none => throw .comparisonWithoutKey

/-- Renders the body that the outcome of a test asks for, and notes a match. -/
def decideComparison (call : Call) (selection : Option Selection) (passes : Bool) :
    RenderM Unit := do
  match selection with
  | some selection =>
    if ← RenderM.isResolved selection then return
    else if passes then
      RenderM.resolve selection
      call.renderMain
    else call.renderElse
  | none => if passes then call.renderMain else call.renderElse

/-- The comparison with a test on the order of two values. -/
def comparison (test : Option Ordering → Bool) : Helper :=
  .block fun call => do
    let selection := call.context.selection?
    let key ← comparisonKey call selection
    let value := (← call.get? "value").getD .null
    let type ← call.getText? "type"
    let order := (convertTo type key).looseCompare? (convertTo type value)
    decideComparison call selection (test order)

/-- The helper that begins a selection. -/
def select : Helper :=
  .block fun call => do
    if call.has "key" then
      let value := (← call.get? "key").getD .null
      let key := convertTo (← call.getText? "type") value
      RenderM.withFlag fun flag => call.renderMainIn (.selection ⟨key, flag⟩ :: call.context)
    else throw (.missingParameter "select" "key")

/-- The helper that renders its body if it is known whether a comparison has matched. -/
def whenResolved (name : String) (resolved : Bool) : Helper :=
  .block fun call => do
    match call.context.selection? with
    | none => throw (.outsideSelection name)
    | some selection =>
      if (← RenderM.isResolved selection) = resolved then call.renderMain

/-- The helpers of this module by name. -/
def comparisons : List (String × Helper) :=
  [("eq", comparison fun order => order = some .eq),
   ("ne", comparison fun order => order ≠ some .eq),
   ("not", comparison fun order => order ≠ some .eq),
   ("lt", comparison fun order => order = some .lt),
   ("lte", comparison fun order => order = some .lt ∨ order = some .eq),
   ("gt", comparison fun order => order = some .gt),
   ("gte", comparison fun order => order = some .gt ∨ order = some .eq),
   ("select", select),
   ("any", whenResolved "any" true),
   ("none", whenResolved "none" false)]

end Dust.Helper
