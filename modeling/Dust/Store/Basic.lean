import Dust.Error
import Dust.Files.Tree
import Dust.Syntax.Tree
import Dust.Syntax.Whitespace

/-!
# Stores of templates

A store holds the templates that are known by name, and the list of template files under the
directories that are searched, once it has been made.
-/

namespace Dust

/-- Where templates come from that are not in the store yet. -/
structure Sources where
  /-- The files. -/
  files : FileTree
  /-- The directories that are searched for template files, as written. -/
  directories : List String := []
  /-- The sources of templates by name. -/
  supplier : String → Option String := fun _ => none
  /-- What becomes of the layout of sources. -/
  whitespace : Whitespace := .preserve

/-- The templates that are known, and what is known of the files. -/
structure Store where
  /-- The templates by name. -/
  templates : Dict Template := []
  /-- The template files that are found by a part of their path, once they have been listed. -/
  index : Option (List String) := none

/-- The directory of the file that a template is read from. -/
def Template.directory? (template : Template) : Option FilePath :=
  template.path.bind fun path => (FilePath.ofString path).parent?

end Dust
