import Dust.Store.Basic

/-!
# Finding template files

The name of a template is tried as a path, first from the directory of the template that includes
it. If there is no file, the name is compared with the ends of the paths of all template files under
the directories that are searched, in the order of the directories and of the names in them. The
files are listed when this is first needed, and the list is kept.
-/

namespace Dust

/-- The ending of template files. -/
def templateEnding : List Char :=
  ".dust".toList

/-- The name of a template with the ending of template files. -/
def fileNameOf (name : String) : List Char :=
  if templateEnding.isSuffixOf name.toList then name.toList else name.toList ++ templateEnding

/-- Whether the last of some names is that of a template file. The ending alone is none. -/
def isTemplateFile (names : List String) : Bool :=
  match names.getLast? with
  | some name => templateEnding.isSuffixOf name.toList && name.toList ≠ templateEnding
  | none => false

/-- A path text with slashes alone between its components. -/
def withSlashes (text : List Char) : List Char :=
  text.map fun c => if c = '\\' then '/' else c

/-- A path text without the marks of the current directory in front. -/
def dropCurrentMarks : List Char → List Char
  | '.' :: '/' :: rest => dropCurrentMarks rest
  | text => text

/-- The end of a path that a file name is compared with. -/
def pathEnding (fileName : List Char) : List Char :=
  '/' :: (dropCurrentMarks (withSlashes fileName)).dropWhile (· = '/')

/-- The first file in a list whose path ends with a file name. -/
def findByEnding? (index : List String) (fileName : List Char) : Option String :=
  index.find? fun path => (pathEnding fileName).isSuffixOf (withSlashes path.toList)

namespace Sources

/-- The template files under a directory, in the order of the names in it. -/
def templateFilesUnder (sources : Sources) (directory : String) : List String :=
  match sources.files.canonical? (FilePath.ofString directory) with
  | none => []
  | some names =>
    match sources.files.root.get? names with
    | none => []
    | some node => ((node.filePaths names).filter isTemplateFile).map FilePath.textFromRoot

/-- The template files under all directories that are searched. -/
def templateFiles (sources : Sources) : List String :=
  sources.directories.flatMap sources.templateFilesUnder

/-- The paths that a file name is tried as. -/
def candidates (base : Option FilePath) (fileName : List Char) : List FilePath :=
  let path := FilePath.ofString (String.ofList fileName)
  match base with
  | some base => if path.absolute then [path] else [base.join path, path]
  | none => [path]

/-- The file that a file name leads to as a path. -/
def directFile? (sources : Sources) (base : Option FilePath) (fileName : List Char) :
    Option String :=
  (candidates base fileName).findSome? fun path =>
    (sources.files.canonicalFile? path).map FilePath.textFromRoot

end Sources

/-- The template files, which are listed if they have not been before. -/
def Store.listing (sources : Sources) (store : Store) : List String × Store :=
  match store.index with
  | some index => (index, store)
  | none => (sources.templateFiles, { store with index := some sources.templateFiles })

/-- The file of a template. -/
def Store.locate (sources : Sources) (store : Store) (name : String) (base : Option FilePath) :
    Option String × Store :=
  let fileName := fileNameOf name
  match sources.directFile? base fileName with
  | some path => (some path, store)
  | none =>
    let (index, store) := store.listing sources
    (findByEnding? index fileName, store)

/-- Finding a file keeps the templates. -/
theorem Store.locate_templates (sources : Sources) (store : Store) (name : String)
    (base : Option FilePath) : (store.locate sources name base).2.templates = store.templates := by
  unfold locate listing
  dsimp only
  split
  · rfl
  · split <;> rfl

end Dust
