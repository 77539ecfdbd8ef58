import Dust.Render.Helper
import Dust.Text.Alphabetic
import Dust.Value.Arithmetic

/-!
# Calculating

The helper `math` applies an operation to its key. The result is written, or it is the current value
and the key of a selection in the main body.
-/

namespace Dust.Helper

/-- Whether a text can be meant as the name of a value: it begins like a name and spells no
double. -/
def isValueName (text : String) : Bool :=
  (Number.readFloat? text.toList).isNone &&
    text.toList.head?.any fun c => Text.isAlphabetic c || c = '_' || c = '$'

/-- Finds the first operand. A plain string can name a value. -/
def calculationKey (call : Call) : HelperM Value := do
  match ← call.get? "key" with
  | none => throw (.missingParameter "math" "key")
  | some (.string text) =>
    if call.isLiteralText "key" ∧ isValueName text then
      return (call.context.getDotted? (← call.scope) text).getD (.string text)
    else return .string text
  | some key => return key

/-- Finds the operation and its second operand: by the name of a method, or by the first operation
that a parameter is named after. -/
def calculationMethod (call : Call) : HelperM (Operation × Option Value) := do
  match ← call.getText? "method" with
  | some method =>
    match Operation.ofName? method with
    | some operation => return (operation, ← call.get? "operand")
    | none => throw (.unknownMethod method)
  | none =>
    match Operation.all.find? fun operation => call.has operation.name with
    | some operation => return (operation, ← call.get? operation.name)
    | none => throw .missingMethod

/-- The helper that applies an operation. -/
def math : Helper :=
  .block fun call => do
    let key ← calculationKey call
    let (operation, operand) ← calculationMethod call
    match operation.apply key operand with
    | .overflow => liftM (throw Halt.overflow : RenderM Unit)
    | .undefined => throw (.failedOperation operation.name)
    | .value result =>
      if call.main.isSome then
        RenderM.withFlag fun flag =>
          call.renderMainIn
            (.selection ⟨result.toValue, flag⟩ :: .value result.toValue none :: call.context)
      else RenderM.write result.toValue.display

end Dust.Helper
