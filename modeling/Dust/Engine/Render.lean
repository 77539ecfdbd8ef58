import Dust.Engine.Basic

/-!
# Rendering by an engine

A template is rendered against data and globals, in which there are no infinities. The text is
always complete, and the first error comes with it.
-/

namespace Dust

/-- What a template is rendered with. -/
structure RenderInput where
  /-- The data. -/
  data : Value
  /-- The values that are seen when nothing else is. -/
  globals : Value := .null
  /-- How deep templates may include each other, if not as deep as in other renders. -/
  maxDepth : Option Nat := none

namespace Engine

/-- What stays the same throughout a render. -/
def renderer (engine : Engine) (input : RenderInput) : Renderer where
  helpers := engine.helpers
  filters := engine.filters
  maxDepth := input.maxDepth.getD engine.maxDepth
  sources := engine.sources
  globals := input.globals.withFiniteFloats

end Engine

namespace EngineM

/-- Keeps what a render has loaded and reported once it has ended. Returns its result and what is
written. -/
def finishRender {α : Type} (run : Except Halt α × RenderState) : EngineM (α × Output) := do
  modify fun engine => { engine with store := run.2.store, reports := run.2.reports }
  match run.1 with
  | .ok answer => return (answer, run.2.output)
  | .error halt => throw (.halt halt)

/-- Runs a step of a render against data. Returns its result and what is written. -/
def onRender {α : Type} (root : Value) (step : RenderM α) : EngineM (α × Output) := do
  let engine ← get
  finishRender (step.run { root, store := engine.store, reports := engine.reports })

/-- Renders a template. The text is complete also if there is an error. -/
def renderOutput (template : Template) (input : RenderInput) : EngineM Output := do
  let engine ← get
  let (_, output) ← onRender input.data.withFiniteFloats
    ((engine.renderer input).renderTemplate engine.bound template)
  return output

/-- The text of an output without error. -/
def textOf (output : Output) : EngineM String :=
  match output.error with
  | some error => throw (.error error)
  | none => return output.text

/-- Renders a template, and fails with the first error. -/
def renderTemplate (template : Template) (data : Value) : EngineM String := do
  textOf (← renderOutput template { data })

/-- Renders the template of a name, and fails with the first error. -/
def render (name : String) (data : Value) : EngineM String := do
  match ← load name with
  | none => throw (.error (Error.ofRender (.templateNotFound name)))
  | some template =>
    let output ← renderOutput template { data }
    textOf { output with error := output.error.map fun error => error.inTemplate name }

end EngineM

end Dust
