import Dust.Syntax.Tree

/-!
# The parts of a template in order

All parts of a body with those that are nested in bodies of sections, helpers and blocks. A part
comes before the parts in it, a main body before the named ones, and these in the order of their
names. What is nested in strings is left out.
-/

namespace Dust

mutual

/-- A part, and the parts in its bodies. -/
def Part.withNested : Part → List Part
  | .element head params main bodies span =>
    .element head params main bodies span :: (nestedInMain main ++ nestedInBodies bodies)
  | .block name main => .block name main :: nestedInMain main
  | part => [part]

/-- The parts of a main body, if there is one. -/
def Part.nestedInMain : Option (List Part) → List Part
  | none => []
  | some body => nestedInBody body

/-- The parts of named bodies. -/
def Part.nestedInBodies : List (String × List Part) → List Part
  | [] => []
  | (_, body) :: rest => nestedInBody body ++ nestedInBodies rest

/-- The parts of a body. -/
def Part.nestedInBody : List Part → List Part
  | [] => []
  | part :: rest => withNested part ++ nestedInBody rest

end

namespace Template

/-- All parts of the body and of the inline partials. -/
def allParts (template : Template) : List Part :=
  Part.nestedInBody template.body ++ Part.nestedInBodies template.blocks

/-- The name of the helper that a part calls. -/
def helperName? : Part → Option String
  | .element (.helper name) .. => some name.name
  | _ => none

/-- The name of the template that a part includes, unless it is rendered. -/
def partialName? : Part → Option String
  | .inclusion (.static name) .. => some name
  | _ => none

/-- The names of the helpers that are called, each once. -/
def helperNames (template : Template) : List String :=
  (template.allParts.filterMap helperName?).eraseDups

/-- The names of the templates that are included, each once. -/
def partialNames (template : Template) : List String :=
  (template.allParts.filterMap partialName?).eraseDups

end Template

end Dust
