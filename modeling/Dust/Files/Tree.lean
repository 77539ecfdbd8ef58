import Dust.Dict
import Dust.Files.Path

/-!
# Trees of files

The files that templates are read from, as a tree of directories in which relative paths start at
one directory. The entries of a directory are in the order of their names.
-/

namespace Dust

/-- A file or directory. -/
inductive FileNode where
  /-- A file. -/
  | file (bytes : ByteArray)
  /-- A directory with its entries in the order of their names. -/
  | directory (entries : List (String × FileNode))

namespace FileNode

instance : Inhabited FileNode := ⟨directory []⟩

/-- The entries of a directory. A file has none. -/
def entries : FileNode → Dict FileNode
  | file _ => []
  | directory entries => entries

/-- Whether this is a directory. -/
def isDirectory : FileNode → Bool
  | file _ => false
  | directory _ => true

/-- What names lead to from here. -/
def get? (node : FileNode) : List String → Option FileNode
  | [] => some node
  | name :: rest =>
    match Dict.get? node.entries name with
    | some child => child.get? rest
    | none => none

/-- Puts a file at the end of names, with the directories on the way. -/
def write (bytes : ByteArray) (node : FileNode) : List String → FileNode
  | [] => file bytes
  | name :: rest =>
    let child := (Dict.get? node.entries name).getD (directory [])
    directory (Dict.insert node.entries name (child.write bytes rest))

/-- Removes what is at the end of names. -/
def remove (node : FileNode) : List String → FileNode
  | [] => node
  | [name] => directory (Dict.erase node.entries name)
  | name :: rest =>
    match Dict.get? node.entries name with
    | some child => directory (Dict.insert node.entries name (child.remove rest))
    | none => node

mutual

/-- The names that lead to files, where some names lead here. The files of a directory come in the
order of its entries. -/
def filePaths (way : List String) : FileNode → List (List String)
  | file _ => [way]
  | directory entries => entryPaths way entries

/-- The names that lead to the files of entries. -/
def entryPaths (way : List String) : List (String × FileNode) → List (List String)
  | [] => []
  | (name, node) :: rest => filePaths (way ++ [name]) node ++ entryPaths way rest

end

end FileNode

/-- Files with the directory that relative paths start at. -/
structure FileTree where
  /-- The root directory. -/
  root : FileNode
  /-- The names that lead from the root to the directory of relative paths. -/
  workingDirectory : List String

namespace FileTree

/-- Whether names lead to a directory. -/
def isDirectory (tree : FileTree) (names : List String) : Bool :=
  (tree.root.get? names).any FileNode.isDirectory

/-- The names that lead from the root to the end of components that start at some directory. Two
dots lead to the directory around. -/
def follow? (tree : FileTree) (names : List String) : List String → Option (List String)
  | [] => if (tree.root.get? names).isSome then some names else none
  | component :: rest =>
    if tree.isDirectory names then
      match component with
      | "." => tree.follow? names rest
      | ".." => tree.follow? names.dropLast rest
      | _ => tree.follow? (names ++ [component]) rest
    else none

/-- The names that lead from the root to the end of a path, if there is something. -/
def canonical? (tree : FileTree) (path : FilePath) : Option (List String) :=
  tree.follow? (if path.absolute then [] else tree.workingDirectory) path.components

/-- The names that lead from the root to the file at the end of a path, if there is one. -/
def canonicalFile? (tree : FileTree) (path : FilePath) : Option (List String) := do
  let names ← tree.canonical? path
  match tree.root.get? names with
  | some (.file _) => some names
  | _ => none

/-- The bytes of the file at the end of a path. -/
def read? (tree : FileTree) (path : FilePath) : Option ByteArray := do
  let names ← tree.canonical? path
  match tree.root.get? names with
  | some (.file bytes) => some bytes
  | _ => none

/-- Puts a file at the end of components that start at the directory of relative paths. -/
def write (tree : FileTree) (components : List String) (bytes : ByteArray) : FileTree :=
  { tree with root := tree.root.write bytes (tree.workingDirectory ++ components) }

/-- Removes the file at the end of components that start at the directory of relative paths. -/
def remove (tree : FileTree) (components : List String) : FileTree :=
  { tree with root := tree.root.remove (tree.workingDirectory ++ components) }

/-- Makes a directory, with the directories on the way. -/
def ofWorkingDirectory (names : List String) : FileTree where
  root := names.foldr (fun name node => .directory [(name, node)]) (.directory [])
  workingDirectory := names

end FileTree

end Dust
