import Dust.Render.Helper
import Dust.Value.Json

/-!
# Looking at values

Helpers that test a value, replace a missing one, tell the size of one, look into one, and write all
there is.
-/

namespace Dust.Helper

/-- The helper that tests a condition. -/
def condition : Helper :=
  .block fun call => do
    if call.has "cond" then
      if (← call.get? "cond").any Value.isTruthy then call.renderMain else call.renderElse
    else throw (.missingParameter "if" "cond")

/-- The value, unless there is none or it is nothing. -/
def present? : Option Value → Option Value
  | none | some .null => none
  | some found => some found

/-- The helper that writes a value or another one in its place. Without a key it renders its body
if no comparison of the selection around has matched. -/
def default : Helper :=
  .block fun call => do
    if call.has "key" then
      match present? (← call.get? "key") with
      | some found => call.writeValue found
      | none =>
        match ← call.get? "value" with
        | some given => call.writeValue given
        | none => return
    else
      match call.context.selection? with
      | none => throw (.missingParameter "default" "key")
      | some selection => if !(← RenderM.isResolved selection) then call.renderMain

/-- The helper that tells a size. -/
def size : Helper :=
  .value fun call => do
    match ← call.get? "key" with
    | some found => return Value.ofNat found.size
    | none => return Value.ofNat 0

/-- The helper that looks into a value. -/
def look : Helper :=
  .value fun call => do
    match ← call.get? "object" with
    | none => return .string "get helper error: No object specified."
    | some object =>
      match ← call.getText? "key" with
      | none => return .string "get helper error: No key specified."
      | some key => return (object.get? key).getD .null

/-- The helper that writes the current value or the whole context as JSON, unless it goes to the
console. -/
def contextDump : Helper :=
  .block fun call => do
    let extent ← call.getText? "key"
    let scope ← call.scope
    let value := if extent = some "full" then call.context.dump scope
      else call.context.current scope
    let goal ← call.getText? "to"
    if goal ≠ some "console" then RenderM.write value.indentedJsonText

/-- The helpers of this module by name. -/
def inspections : List (String × Helper) :=
  [("if", condition), ("default", default), ("size", size), ("get", look),
   ("contextDump", contextDump)]

end Dust.Helper
