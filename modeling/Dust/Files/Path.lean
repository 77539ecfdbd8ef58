import Dust.Text.Split

/-!
# Paths of files

A path is a list of components, which starts at the root or somewhere else. Empty components and
single dots mean nothing, except for a dot in front.
-/

namespace Dust

/-- The way to a file or directory. -/
structure FilePath where
  /-- Whether the path starts at the root. -/
  absolute : Bool
  /-- The names on the way. -/
  components : List String
  deriving DecidableEq, Inhabited

namespace FilePath

/-- Whether a component means something wherever it stands. -/
def matters (component : List Char) : Bool :=
  component ≠ [] && component ≠ ['.']

/-- The path that a text spells. -/
def ofString (text : String) : FilePath :=
  match Text.splitAt '/' text.toList with
  | [] => ⟨false, []⟩
  | first :: rest =>
    let later := (rest.filter matters).map String.ofList
    if first = [] then ⟨rest ≠ [], later⟩ else ⟨false, String.ofList first :: later⟩

/-- The text of components from the root on. -/
def textFromRoot (components : List String) : String :=
  String.ofList (components.flatMap fun component => '/' :: component.toList)

/-- The path without its last component, if there is one. -/
def parent? (path : FilePath) : Option FilePath :=
  if path.components = [] then none
  else some { path with components := path.components.dropLast }

/-- A path that goes on from another one. -/
def join (base path : FilePath) : FilePath :=
  if path.absolute then path else { base with components := base.components ++ path.components }

end FilePath

end Dust
