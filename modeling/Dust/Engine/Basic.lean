import Dust.Helper.Builtin
import Dust.Render.Evaluate

/-!
# Engines

An engine holds the helpers, filters and settings of renders, and the store of templates. Whatever
loads templates may add to the store, also when it fails in the end.
-/

namespace Dust

/-- Everything that renders need. -/
structure Engine where
  /-- The helpers by name. -/
  helpers : Dict Helper := Helper.builtins
  /-- The filters. -/
  filters : FilterSet := {}
  /-- How deep templates may include each other. -/
  maxDepth : Nat := 64
  /-- How deep the evaluation may nest bodies, and the search for helpers templates. -/
  bound : Nat := 10000
  /-- Where templates come from. -/
  sources : Sources
  /-- The templates. -/
  store : Store := {}
  /-- The values that probes have reported. -/
  reports : List Value := []

/-- Why an engine gives no answer. -/
inductive Failure where
  /-- Something is wrong with templates. -/
  | error (error : Error)
  /-- A render has come to a halt. -/
  | halt (halt : Halt)
  deriving DecidableEq

/-- A step of an engine. -/
abbrev EngineM := ExceptT Failure (StateM Engine)

namespace Engine

/-- Sets what becomes of the layout of templates that are compiled from now on. -/
def setWhitespace (engine : Engine) (whitespace : Whitespace) : Engine :=
  { engine with sources := { engine.sources with whitespace } }

/-- Sets how deep templates may include each other. -/
def setMaxDepth (engine : Engine) (maxDepth : Nat) : Engine :=
  { engine with maxDepth }

/-- Sets the filters that are applied without being named. A filter is applied once. -/
def setAutomaticFilters (engine : Engine) (names : List String) : Engine :=
  { engine with filters := { engine.filters with automatic := names.eraseDups } }

/-- Adds a filter, in place of the one of its name. -/
def addFilter (engine : Engine) (name : String) (filter : Filter) : Engine :=
  { engine with
    filters := { engine.filters with known := engine.filters.known.insert name filter } }

/-- Adds a helper, in place of the one of its name. -/
def addHelper (engine : Engine) (name : String) (helper : Helper) : Engine :=
  { engine with helpers := engine.helpers.insert name helper }

/-- Adds a directory that is searched for template files. The files are listed anew when they are
next needed. -/
def addDirectory (engine : Engine) (directory : String) : Engine :=
  { engine with
    sources := { engine.sources with directories := engine.sources.directories ++ [directory] }
    store := { engine.store with index := none } }

/-- Sets the function that supplies the sources of templates by name. -/
def setSupplier (engine : Engine) (supplier : String → Option String) : Engine :=
  { engine with sources := { engine.sources with supplier } }

/-- Compiles a source. -/
def compile (engine : Engine) (source : String) : Except Error Template :=
  compileSource engine.sources.whitespace source

/-- Keeps a template under a name. -/
def register (engine : Engine) (name : String) (template : Template) : Engine :=
  { engine with store := engine.store.register name template }

/-- The template that is kept under a name. -/
def get? (engine : Engine) (name : String) : Option Template :=
  engine.store.get? name

end Engine

namespace EngineM

/-- Runs a step of the store. -/
def onStore {α : Type} (step : Sources → Store → Except Error α × Store) : EngineM α := do
  let engine ← get
  let (result, store) := step engine.sources engine.store
  set { engine with store }
  match result with
  | .ok answer => return answer
  | .error error => throw (.error error)

/-- Gives an answer or fails with its error. -/
def ofExcept {α : Type} (result : Except Error α) : EngineM α :=
  match result with
  | .ok answer => return answer
  | .error error => throw (.error error)

/-- Compiles a source and keeps the template under a name. -/
def add (name source : String) : EngineM Template :=
  onStore fun sources store => store.add sources name source

/-- The template of a name, if there is one. Files are tried from the given directory first. -/
def loadFrom (base : Option FilePath) (name : String) : EngineM (Option Template) :=
  onStore fun sources store => store.load sources name base

/-- The template of a name, if there is one. -/
def load (name : String) : EngineM (Option Template) :=
  loadFrom none name

/-- The template of the file that a path leads to, if there is one. -/
def compileFile (path : String) : EngineM (Option Template) :=
  onStore fun sources store => store.loadLocated sources path none

end EngineM

end Dust
