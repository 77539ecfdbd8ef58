import Dust.Render.Context
import Dust.Store.Basic

/-!
# The state of a render

What changes while a template is rendered: the text and the first error so far, the data, the flags
of the selections around, and the store. Rendering goes on after an error. It comes to a halt only
where it cannot go on.
-/

namespace Dust

/-- A text that grows, with the first error that was found on the way. -/
structure Output where
  /-- The text. -/
  text : String := ""
  /-- The first error. -/
  error : Option Error := none

namespace Output

/-- The output with more text. -/
def write (output : Output) (text : String) : Output :=
  { output with text := output.text ++ text }

/-- The output with an error, which is kept only if it is the first one. -/
def withError (output : Output) (error : Option Error) : Output :=
  { output with error := output.error.or error }

/-- The output followed by another one. -/
def append (output later : Output) : Output :=
  (output.write later.text).withError later.error

instance : Append Output := ⟨append⟩

end Output

/-- Why a render stops. -/
inductive Halt where
  /-- An integer is calculated beyond the range of integers. -/
  | overflow
  /-- Templates are nested deeper than the bound of the evaluation. -/
  | exhausted
  deriving DecidableEq

/-- What changes while a template is rendered. -/
structure RenderState where
  /-- What is written. -/
  output : Output := {}
  /-- The data. -/
  root : Value := .null
  /-- Whether a comparison has matched, for each selection around, outermost first. -/
  flags : List Bool := []
  /-- The first error of the parameters of the call that is going on. -/
  pending : Option Error := none
  /-- The templates. -/
  store : Store := {}
  /-- The values that probes have reported. -/
  reports : List Value := []

/-- A step of a render. -/
abbrev RenderM := ExceptT Halt (StateM RenderState)

namespace RenderM

/-- Writes text. -/
def write (text : String) : RenderM Unit :=
  modify fun state => { state with output := state.output.write text }

/-- Notes an error. -/
def noteError (error : Option Error) : RenderM Unit :=
  modify fun state => { state with output := state.output.withError error }

/-- Writes what another output holds and notes its error. -/
def append (output : Output) : RenderM Unit :=
  modify fun state => { state with output := state.output ++ output }

/-- Writes a step into an output of its own, which is returned. -/
def fork (step : RenderM Unit) : RenderM Output := do
  let before := (← get).output
  modify fun state => { state with output := {} }
  step
  let forked := (← get).output
  modify fun state => { state with output := before }
  return forked

/-- Runs a step with a new flag, which is dropped afterwards. -/
def withFlag (step : Nat → RenderM Unit) : RenderM Unit := do
  let flag := (← get).flags.length
  modify fun state => { state with flags := state.flags ++ [false] }
  step flag
  modify fun state => { state with flags := state.flags.take flag }

/-- Whether a comparison in a selection has matched. -/
def isResolved (selection : Selection) : RenderM Bool := do
  return (← get).flags.getD selection.flag false

/-- Notes that a comparison in a selection has matched. -/
def resolve (selection : Selection) : RenderM Unit :=
  modify fun state => { state with flags := state.flags.set selection.flag true }

/-- Runs a step of the store. -/
def withStore {α : Type} (step : Store → α × Store) : RenderM α := do
  let (result, store) := step (← get).store
  modify fun state => { state with store }
  return result

/-- Writes a step into an output of its own, whose text is the value of a parameter. Its error is
set aside. -/
def quoted (step : RenderM Unit) : RenderM Value := do
  let rendered ← fork step
  modify fun state => { state with pending := state.pending.or rendered.error }
  return .string rendered.text

/-- Writes a step into an output of its own, whose text is the name of a template. -/
def named (step : RenderM Unit) : RenderM String := do
  let rendered ← fork step
  noteError rendered.error
  return rendered.text

/-- Writes a step into an output of its own, as the template of a name, and appends it. -/
def included (name : String) (step : RenderM Unit) : RenderM Unit := do
  let inner ← fork step
  write inner.text
  noteError (inner.error.map fun error => error.inTemplate name)

/-- Gathers the errors of parameters while a step runs, and returns the first one. -/
def gatherPending {α : Type} (step : RenderM α) : RenderM (α × Option Error) := do
  let before := (← get).pending
  modify fun state => { state with pending := none }
  let result ← step
  let gathered := (← get).pending
  modify fun state => { state with pending := before }
  return (result, gathered)

/-- Gathers the errors of parameters while a step runs, and notes the first one after it. -/
def gathered {α : Type} (step : RenderM α) : RenderM α := do
  let (result, error) ← gatherPending step
  noteError error
  return result

end RenderM

end Dust
