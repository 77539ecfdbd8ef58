import Dust.Render.Helper
import Dust.Value.Arithmetic

/-!
# Changing the data

The helpers `set` and `unset` are the only ones that change the data of the render. They write what
is wrong into the output. Data that is nothing becomes a map first, and a number that is missing
starts at zero.
-/

namespace Dust.Helper

/-- Why data is not changed as asked. -/
inductive ChangeFault where
  /-- No key is given. -/
  | missingKey
  /-- The key is not a text. -/
  | keyNotText
  /-- No change is given. -/
  | missingAction
  /-- What an operation is given is not a number. -/
  | notNumber (operation : Operation)
  /-- An operation has no result. -/
  | failed (operation : Operation)
  /-- The data is not a map. -/
  | notMap (typeName : String)

/-- The message of a fault. -/
def ChangeFault.message : ChangeFault → String
  | missingKey => "No key specified."
  | keyNotText => "Key is not a string."
  | missingAction => "No action specified."
  | notNumber operation => operation.name ++ " value is not a number."
  | failed operation => operation.name ++ " failed."
  | notMap typeName => "Data is not a map, found " ++ typeName ++ "."

/-- A change that may be refused. -/
abbrev ChangeM := ExceptT ChangeFault RenderM

/-- Finds the key of a change. -/
def changeKey (call : Call) : ChangeM String := do
  match ← call.get? "key" with
  | none => throw .missingKey
  | some .null => throw .missingKey
  | some (.string key) => return key
  | some _ => throw .keyNotText

/-- Replaces the data. -/
def replaceEntries (entries : Dict Value) : ChangeM Unit :=
  modify fun state => { state with root := .map entries }

/-- The entries of data, which becomes a map if it is nothing. -/
def entriesOf : Value → ChangeM (Dict Value)
  | .null => do
    replaceEntries []
    return []
  | .map entries => return entries
  | root => throw (.notMap root.typeName)

/-- The entries of the data, as a map. -/
def rootEntries : ChangeM (Dict Value) := do
  entriesOf (← get).root

/-- Applies an operation to the value of a key, which starts at zero. -/
def changeByOperation (key : String) (operation : Operation) (operand : Value) :
    ChangeM Unit := do
  let entries ← rootEntries
  let current := (entries.get? key).getD (.integer 0)
  replaceEntries (entries.insert key current)
  match operation.apply current (some operand) with
  | .overflow => liftM (throw Halt.overflow : RenderM Unit)
  | .undefined => throw (.failed operation)
  | .value result => replaceEntries (entries.insert key result.toValue)

/-- Gives a key a value, or changes its value by an operation. -/
def changeKeyValue (call : Call) : ChangeM Unit := do
  let key ← changeKey call
  match ← call.get? "value" with
  | some given =>
    let entries ← rootEntries
    replaceEntries (entries.insert key given)
  | none =>
    match Operation.binary.find? fun operation => call.has operation.name with
    | none => throw .missingAction
    | some operation =>
      match ← call.get? operation.name with
      | none => throw (.notNumber operation)
      | some operand =>
        if operand.quantity?.isNone then throw (.notNumber operation)
        else changeByOperation key operation operand

/-- Removes a key. -/
def removeKey (call : Call) : ChangeM Unit := do
  let key ← changeKey call
  let entries ← rootEntries
  replaceEntries (entries.erase key)

/-- The helper that makes a change, or writes why it does not. -/
def change (name : String) (run : Call → ChangeM Unit) : Helper :=
  .block fun call => do
    match ← liftM (run call).run with
    | .ok _ => return
    | .error fault => RenderM.write (name ++ " helper error: " ++ fault.message)

/-- The helpers of this module by name. -/
def changes : List (String × Helper) :=
  [("set", change "set" changeKeyValue), ("unset", change "unset" removeKey)]

end Dust.Helper
