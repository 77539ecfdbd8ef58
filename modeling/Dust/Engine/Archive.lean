import Dust.Engine.Basic
import Dust.Syntax.Archive

/-!
# Storing the templates of an engine

All templates are written as one JSON text, and read back under their names. Nothing is changed if
the text does not hold templates.
-/

namespace Dust

/-- The JSON text of all templates. -/
def Engine.archive (engine : Engine) : String :=
  Template.archive engine.store.templates

/-- Keeps the templates that a JSON text holds. -/
def EngineM.unarchive (text : String) : EngineM Unit := do
  match Template.ofArchive? text with
  | none => throw (.error { fault := .archive })
  | some templates =>
    modify fun engine =>
      { engine with
        store := { engine.store with
          templates := engine.store.templates.insertAll templates } }

end Dust
