import Dust.Engine.Render
import Dust.Syntax.Nested

/-!
# Surveys of templates

A survey visits a template, and then the templates it includes by names that are not rendered, each
name once. It gathers the names of the helpers that may be called, or runs the probes among them.
-/

namespace Dust

/-- What a survey has found so far. -/
structure Survey where
  /-- The names of templates that have been asked for. -/
  seen : List String := []
  /-- The names that have been gathered, each once. -/
  gathered : List String := []

namespace Survey

/-- The survey with more names. -/
def gather (survey : Survey) (names : List String) : Survey :=
  { survey with gathered := (survey.gathered ++ names).eraseDups }

end Survey

/-- The call of a probe by a part. -/
def Renderer.probe? (renderer : Renderer) (render : BodyRender) (origin : Origin) :
    Part → Option (String × RenderM Value)
  | .element (.helper name) list main bodies _ =>
    match renderer.helpers.get? name.name with
    | some (.probe run) =>
      let params := renderer.params render origin [] list
      some (name.name, run { params with main, bodies, filters := renderer.filters })
    | _ => none
  | _ => none

/-- Runs a probe and keeps what it reports. What is wrong in its parameters is of no account. -/
def RenderM.report (probe : RenderM Value) : RenderM Unit := do
  let (value, _) ← RenderM.gatherPending probe
  modify fun state => { state with reports := state.reports ++ [value] }

/-- Runs probes in order. -/
def RenderM.reportAll : List (RenderM Value) → RenderM Unit
  | [] => return
  | probe :: rest => do
    RenderM.report probe
    reportAll rest

namespace EngineM

/-- Gathers the names of the helpers that a template calls. -/
def gatherHelpers (template : Template) : EngineM (List String) :=
  return template.helperNames

/-- Runs the probes of a template against no data, and gathers their names. -/
def runProbes (template : Template) : EngineM (List String) := do
  let engine ← get
  let renderer := engine.renderer { data := .null }
  let probes := template.allParts.filterMap
    (renderer.probe? (renderer.renderBody engine.bound) ⟨template, 0⟩)
  let _ ← onRender .null (RenderM.reportAll (probes.map Prod.snd))
  return probes.map Prod.fst

/-- Visits the template of a name and those that it includes, up to a bound on how deep they include
each other. Names that have been seen are not visited again. -/
def visit (run : Template → EngineM (List String)) (bound : Nat) (base : Option FilePath)
    (survey : Survey) (name : String) : EngineM Survey :=
  match bound with
  | 0 => throw (.halt .exhausted)
  | bound + 1 =>
    if survey.seen.contains name then return survey
    else do
      let survey := { survey with seen := name :: survey.seen }
      match ← loadFrom base name with
      | none => return survey
      | some template =>
        let names ← run template
        template.partialNames.foldlM (visit run bound template.directory?)
          (survey.gather names)

/-- Visits the templates of names and those that they include, and returns what is gathered. -/
def visitAll (run : Template → EngineM (List String)) (names : List String) :
    EngineM (List String) := do
  let bound := (← get).bound
  let survey ← names.foldlM (visit run bound none) {}
  return survey.gathered

/-- The names of the helpers that the template of a name and those it includes call. -/
def helpersUsed (name : String) : EngineM (List String) :=
  visitAll gatherHelpers [name]

/-- Runs the probes of the templates of names and of those they include, and returns their
names. -/
def prerun (names : List String) : EngineM (List String) :=
  visitAll runProbes names

end EngineM

end Dust
