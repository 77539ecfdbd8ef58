import Dust.Files.Tree
import Dust.Proofs.Text.Split

/-!
# The names on the way to a file

A path that is written from the root on spells the names that lead to a file, and reading it gives
these names back if they are names that files can have. Following them in a tree leads to the same
names, since none of them means another directory.
-/

namespace Dust

/-- A text that can be the name of a file or directory. -/
structure IsFileName (name : String) : Prop where
  /-- It is not empty. -/
  nonempty : name.toList ≠ []
  /-- It does not go on to another name. -/
  single : '/' ∉ name.toList
  /-- It does not mean the directory it is in. -/
  notHere : name ≠ "."
  /-- It does not mean the directory around. -/
  notAround : name ≠ ".."

instance (name : String) : Decidable (IsFileName name) :=
  decidable_of_iff
    (name.toList ≠ [] ∧ '/' ∉ name.toList ∧ name ≠ "." ∧ name ≠ "..")
    ⟨fun ⟨nonempty, single, notHere, notAround⟩ => ⟨nonempty, single, notHere, notAround⟩,
      fun ⟨nonempty, single, notHere, notAround⟩ => ⟨nonempty, single, notHere, notAround⟩⟩

/-- The name of a file is a component that means something. -/
theorem IsFileName.matters {name : String} (isName : IsFileName name) :
    FilePath.matters name.toList = true := by
  have notDot : name.toList ≠ ['.'] := fun same => isName.notHere (String.toList_inj.mp same)
  simp [FilePath.matters, isName.nonempty, notDot]

namespace FilePath

/-- The names on the way are the pieces between slashes. -/
theorem splitAt_textFromRoot {names : List String} (named : ∀ name ∈ names, IsFileName name) :
    Text.splitAt '/' (textFromRoot names).toList = [] :: names.map String.toList := by
  unfold textFromRoot
  rw [String.toList_ofList]
  induction names with
  | nil => rfl
  | cons name rest induction =>
    have later := induction fun other mem => named other (List.mem_cons_of_mem _ mem)
    have isName := named name List.mem_cons_self
    simp only [List.flatMap_cons, List.cons_append, Text.splitAt, if_true, List.map_cons]
    rw [Text.splitAt_append isName.single later, List.append_nil]

/-- Names that are written from the root on are read back. -/
theorem ofString_textFromRoot {names : List String} (named : ∀ name ∈ names, IsFileName name)
    (nonempty : names ≠ []) : ofString (textFromRoot names) = ⟨true, names⟩ := by
  have kept : (names.map String.toList).filter matters = names.map String.toList :=
    List.filter_eq_self.mpr fun piece mem => by
      obtain ⟨name, isIn, rfl⟩ := List.mem_map.mp mem
      exact (named name isIn).matters
  have texts : (names.map String.toList).map String.ofList = names := by
    simp [Function.comp_def]
  unfold ofString
  simp only [splitAt_textFromRoot named, kept, texts, if_true]
  simp [nonempty]

/-- An ending that cannot be left out is the ending of the last component. -/
theorem ofString_ending {text ending : List Char} (isEnding : ending <:+ text)
    (free : '/' ∉ ending) (long : 1 < ending.length) :
    ∃ front last, (ofString (String.ofList text)).components = front ++ [String.ofList last] ∧
      ending <:+ last := by
  obtain ⟨front, rfl⟩ := isEnding
  obtain ⟨pieces, last, split, isEnding⟩ := @Text.splitAt_ending _ front _ free
  have length := isEnding.length_le
  have nonempty : last ≠ [] := fun same => by
    rw [same, List.length_nil] at length
    omega
  have isKept : matters last = true := by
    have notDot : last ≠ ['.'] := fun same => by
      rw [same, List.length_singleton] at length
      omega
    simp [matters, nonempty, notDot]
  unfold ofString
  simp only [String.toList_ofList, split]
  cases pieces with
  | nil =>
    refine ⟨[], last, ?_, isEnding⟩
    simp [nonempty]
  | cons first more =>
    simp only [List.cons_append, List.filter_append, List.map_append]
    by_cases absolute : first = []
    · exact ⟨(more.filter matters).map String.ofList, last, by simp [absolute, isKept], isEnding⟩
    · exact ⟨String.ofList first :: (more.filter matters).map String.ofList, last,
        by simp [absolute, isKept], isEnding⟩

end FilePath

namespace FileNode

/-- The names that lead to the files of entries are those of one entry after the other. -/
theorem entryPaths_eq (way : List String) (entries : List (String × FileNode)) :
    entryPaths way entries = entries.flatMap fun entry => entry.2.filePaths (way ++ [entry.1]) := by
  induction entries with
  | nil => rfl
  | cons entry rest induction => rw [entryPaths, induction, List.flatMap_cons]

/-- Whatever is under a directory is under the directories around. -/
theorem filePaths_of_get? {node inner : FileNode} {names way path : List String}
    (found : node.get? names = some inner) (mem : path ∈ inner.filePaths (way ++ names)) :
    path ∈ node.filePaths way := by
  induction names generalizing node way with
  | nil =>
    cases found
    rwa [List.append_nil] at mem
  | cons name rest induction =>
    unfold get? at found
    split at found
    · rename_i child isChild
      have under : path ∈ child.filePaths (way ++ [name]) :=
        induction found (by rwa [List.append_assoc])
      cases node with
      | file bytes => cases isChild
      | directory entries =>
        rw [filePaths, entryPaths_eq]
        exact List.mem_flatMap.mpr ⟨(name, child), Dict.mem_of_get? isChild, under⟩
    · cases found

/-- A file is among the files that are listed. -/
theorem mem_filePaths {node : FileNode} {names : List String} {bytes : ByteArray}
    (found : node.get? names = some (.file bytes)) : names ∈ node.filePaths [] :=
  filePaths_of_get? found List.mem_cons_self

end FileNode

namespace FileTree

variable {tree : FileTree}

/-- All files are at the end of names that files can have. -/
def IsNamed (tree : FileTree) : Prop :=
  ∀ names ∈ tree.root.filePaths [], ∀ name ∈ names, IsFileName name

instance (tree : FileTree) : Decidable tree.IsNamed :=
  inferInstanceAs (Decidable (∀ names ∈ tree.root.filePaths [], ∀ name ∈ names, IsFileName name))

/-- Where nothing is left to follow, the names lead to themselves. -/
theorem follow?_nil {names found : List String} (ends : tree.follow? names [] = some found) :
    found = names := by
  unfold follow? at ends
  split at ends
  · exact (Option.some.inj ends).symm
  · cases ends

/-- A name of a file is followed into the directory. -/
theorem follow?_name {names rest found : List String} {name : String} (notHere : name ≠ ".")
    (notAround : name ≠ "..") (leads : tree.follow? names (name :: rest) = some found) :
    tree.follow? (names ++ [name]) rest = some found := by
  unfold follow? at leads
  split at leads
  · split at leads
    · exact absurd rfl notHere
    · exact absurd rfl notAround
    · exact leads
  · cases leads

/-- Names of files lead nowhere else. -/
theorem follow?_eq {names rest found : List String} (named : ∀ name ∈ rest, IsFileName name)
    (leads : tree.follow? names rest = some found) : found = names ++ rest := by
  induction rest generalizing names with
  | nil => rw [follow?_nil leads, List.append_nil]
  | cons name rest induction =>
    have isName := named name List.mem_cons_self
    have later := induction (fun other mem => named other (List.mem_cons_of_mem _ mem))
      (follow?_name isName.notHere isName.notAround leads)
    rwa [List.append_assoc] at later

/-- A path leads to its last component, unless this means another directory. -/
theorem follow?_last {names front found : List String} {name : String} (notHere : name ≠ ".")
    (notAround : name ≠ "..") (leads : tree.follow? names (front ++ [name]) = some found) :
    ∃ before, found = before ++ [name] := by
  induction front generalizing names with
  | nil => exact ⟨names, follow?_nil (follow?_name notHere notAround leads)⟩
  | cons component rest induction =>
    rw [List.cons_append] at leads
    unfold follow? at leads
    split at leads
    · split at leads <;> exact induction leads
    · cases leads

/-- The names that lead to the file at the end of a path. -/
theorem canonicalFile?_eq_some {path : FilePath} {names : List String}
    (found : tree.canonicalFile? path = some names) :
    tree.canonical? path = some names ∧ ∃ bytes, tree.root.get? names = some (.file bytes) := by
  unfold canonicalFile? at found
  obtain ⟨leading, leads, isFile⟩ := Option.bind_eq_some_iff.mp found
  split at isFile
  · rename_i bytes isThere
    cases isFile
    exact ⟨leads, bytes, isThere⟩
  · cases isFile

/-- A file that can be read is at the end of its path. -/
theorem read?_eq_some {path : FilePath} {bytes : ByteArray} (read : tree.read? path = some bytes) :
    ∃ names, tree.canonicalFile? path = some names := by
  unfold read? at read
  obtain ⟨names, leads, isFile⟩ := Option.bind_eq_some_iff.mp read
  split at isFile
  · rename_i inner isThere
    refine ⟨names, ?_⟩
    unfold canonicalFile?
    simp [leads, isThere]
  · cases isFile

/-- A file that can be read under names from the root on is at the end of these names. -/
theorem canonicalFile?_textFromRoot {names : List String} {bytes : ByteArray}
    (named : ∀ name ∈ names, IsFileName name) (nonempty : names ≠ [])
    (read : tree.read? (.ofString (FilePath.textFromRoot names)) = some bytes) :
    tree.canonicalFile? (.ofString (FilePath.textFromRoot names)) = some names := by
  obtain ⟨found, isFile⟩ := read?_eq_some read
  obtain ⟨leads, -⟩ := canonicalFile?_eq_some isFile
  rw [FilePath.ofString_textFromRoot named nonempty] at leads isFile ⊢
  have same : found = [] ++ names := follow?_eq named leads
  rw [isFile, same, List.nil_append]

end FileTree

end Dust
