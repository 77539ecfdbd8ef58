import Dust.Proofs.Store.Settled
import Mathlib.Data.List.Find

/-!
# Finding files by the end of their path

A file that is not found as a path is looked for among the listed ones, by comparing texts from
their ends. Since the text that is compared begins with a slash, whole components are compared: a
file is found exactly if its last components are those of the name. The first one that is listed is
taken. The directories that are searched are listed in their order, and the files under each of them
in the order of their names.
-/

namespace Dust

/-! ### Names of templates -/

/-- A name without the mark in front that says where it starts. -/
def withoutLead : List Char → List Char
  | '.' :: '/' :: rest => rest
  | '/' :: rest => rest
  | name => name

/-- The components of the name of a template. -/
def nameComponents (name : String) : List (List Char) :=
  Text.splitAt '/' (withoutLead name.toList)

/-- A component that is the name of a file or directory, written without backslashes. -/
structure IsPlainComponent (component : List Char) : Prop where
  /-- It is not empty. -/
  nonempty : component ≠ []
  /-- It does not mean the directory it is in. -/
  notHere : component ≠ ['.']
  /-- It does not mean the directory around. -/
  notAround : component ≠ ['.', '.']
  /-- It has no backslashes. -/
  forward : '\\' ∉ component

instance (component : List Char) : Decidable (IsPlainComponent component) :=
  decidable_of_iff
    (component ≠ [] ∧ component ≠ ['.'] ∧ component ≠ ['.', '.'] ∧ '\\' ∉ component)
    ⟨fun ⟨nonempty, notHere, notAround, forward⟩ => ⟨nonempty, notHere, notAround, forward⟩,
      fun ⟨nonempty, notHere, notAround, forward⟩ => ⟨nonempty, notHere, notAround, forward⟩⟩

/-- A name whose components are all plain. -/
def IsPlainName (name : String) : Prop :=
  ∀ component ∈ nameComponents name, IsPlainComponent component

instance (name : String) : Decidable (IsPlainName name) :=
  inferInstanceAs (Decidable (∀ component ∈ nameComponents name, IsPlainComponent component))

/-- A text with the ending of template files, which is added if it is not there. -/
def withEnding (text : List Char) : List Char :=
  if templateEnding.isSuffixOf text then text else text ++ templateEnding

/-- The components of a file, where the last one has the ending of template files. -/
def fileComponents : List (List Char) → List (List Char)
  | [] => []
  | [last] => [withEnding last]
  | component :: next :: rest => component :: fileComponents (next :: rest)

/-- The components of a path that is written from the root on. -/
def pathComponents (path : String) : List (List Char) :=
  match Text.splitAt '/' path.toList with
  | [] :: components => components
  | components => components

/-- The last components of a path are those of a name. -/
def EndsWithName (path name : String) : Prop :=
  fileComponents (nameComponents name) <:+ pathComponents path

instance (path name : String) : Decidable (EndsWithName path name) :=
  inferInstanceAs (Decidable (fileComponents (nameComponents name) <:+ pathComponents path))

/-! ### What is compared -/

/-- A text has the ending exactly if what is behind a slash in it has. -/
theorem withEnding_slash (front back : List Char) :
    withEnding (front ++ '/' :: back) = front ++ '/' :: withEnding back := by
  have single : '/' ∉ templateEnding := by decide
  have same :
      templateEnding.isSuffixOf (front ++ '/' :: back) = templateEnding.isSuffixOf back := by
    rw [Bool.eq_iff_iff, List.isSuffixOf_iff_suffix, List.isSuffixOf_iff_suffix]
    refine ⟨fun ends => ?_, fun ends => ends.trans ?_⟩
    · rcases List.suffix_or_suffix_of_suffix ends (List.suffix_append front _) with within | around
      · rcases List.suffix_cons_iff.mp within with whole | within
        · exact absurd (whole ▸ List.mem_cons_self) single
        · exact within
      · exact absurd (around.mem List.mem_cons_self) single
    · exact (List.suffix_cons _ _).trans (List.suffix_append _ _)
  unfold withEnding
  rw [same]
  split <;> simp

/-- The components of a text with the ending are those of a file. -/
theorem splitAt_withEnding (text : List Char) :
    Text.splitAt '/' (withEnding text) = fileComponents (Text.splitAt '/' text) := by
  obtain ⟨pieces, split⟩ : ∃ pieces, Text.splitAt '/' text = pieces := ⟨_, rfl⟩
  rw [split]
  induction pieces generalizing text with
  | nil => exact absurd split (Text.splitAt_ne_nil _ _)
  | cons piece more induction =>
    cases more with
    | nil =>
      obtain ⟨rfl, free⟩ := Text.splitAt_eq_singleton split
      refine Text.splitAt_of_notMem ?_
      unfold withEnding
      split
      · exact free
      · simp [free, templateEnding]
    | cons next more =>
      obtain ⟨back, rfl, behind, free⟩ := Text.splitAt_eq_cons_cons split
      rw [withEnding_slash, Text.splitAt_mark, Text.splitAt_of_notMem free, induction back behind]
      rfl

/-- A text with the ending is longer than a dot. -/
theorem withEnding_long (text : List Char) : 1 < (withEnding text).length := by
  have ends : templateEnding <:+ withEnding text := by
    unfold withEnding
    split
    · rename_i isEnding
      exact List.isSuffixOf_iff_suffix.mp isEnding
    · exact List.suffix_append _ _
  exact Nat.lt_of_lt_of_le (by decide) ends.length_le

/-- A component that is neither empty nor a dot is not dropped at the beginning of a text. -/
theorem keeps_of_splitAt {text component : List Char} {more : List (List Char)}
    (pieces : Text.splitAt '/' text = component :: more) (nonempty : component ≠ [])
    (notHere : component ≠ ['.']) :
    dropCurrentMarks text = text ∧ text.dropWhile (· = '/') = text := by
  constructor
  · unfold dropCurrentMarks
    split
    · obtain ⟨same, -⟩ : ['.'] = component ∧ _ := by simpa [Text.splitAt] using pieces
      exact absurd same.symm notHere
    · rfl
  · cases text with
    | nil => rfl
    | cons c rest =>
      have other : c ≠ '/' := by
        rintro rfl
        rw [Text.splitAt, if_pos rfl] at pieces
        exact nonempty (List.cons.inj pieces).1.symm
      simp [other]

/-- The first component of a file of a plain name is neither empty nor a dot. -/
theorem fileComponents_first {components : List (List Char)} (some : components ≠ [])
    (plain : ∀ component ∈ components, IsPlainComponent component) :
    ∃ first more, fileComponents components = first :: more ∧ first ≠ [] ∧ first ≠ ['.'] := by
  match components, some with
  | [last], _ =>
    have long := withEnding_long last
    refine ⟨withEnding last, [], rfl, fun same => ?_, fun same => ?_⟩
    · rw [same] at long
      cases long
    · rw [same] at long
      exact absurd long (by decide)
  | first :: next :: rest, _ =>
    have isPlain := plain first List.mem_cons_self
    exact ⟨first, _, rfl, isPlain.nonempty, isPlain.notHere⟩

/-- In front of a name stands nothing, a mark of the directory it starts in, or one of the root. -/
theorem withoutLead_cases (text : List Char) :
    text = withoutLead text ∨ text = '.' :: '/' :: withoutLead text ∨
      text = '/' :: withoutLead text := by
  unfold withoutLead
  split
  · exact .inr (.inl rfl)
  · exact .inr (.inr rfl)
  · exact .inl rfl

/-- A text without backslashes keeps its slashes. -/
theorem withSlashes_eq_self {text : List Char} (forward : '\\' ∉ text) :
    withSlashes text = text := by
  unfold withSlashes
  refine (List.map_congr_left fun c mem => ?_).trans (List.map_id text)
  have other : c ≠ '\\' := fun same => forward (same ▸ mem)
  simp [other]

/-- A plain name has no backslashes. -/
theorem IsPlainName.forward {name : String} (plain : IsPlainName name) : '\\' ∉ name.toList := by
  have behind : '\\' ∉ withoutLead name.toList := fun mem => by
    rcases Text.mem_of_splitAt '/' mem with isMark | ⟨component, isComponent, inside⟩
    · cases isMark
    · exact (plain component isComponent).forward inside
  rcases withoutLead_cases name.toList with same | same | same
  · rwa [← same] at behind
  · rw [same]
    simp [behind]
  · rw [same]
    simp [behind]

/-- What the paths of files are compared with are the components of the file of a name, with a slash
in front. -/
theorem pathEnding_of_plain {name : String} (plain : IsPlainName name) :
    ∃ ending, pathEnding (fileNameOf name) = '/' :: ending ∧
      Text.splitAt '/' ending = fileComponents (nameComponents name) := by
  have pieces := splitAt_withEnding (withoutLead name.toList)
  obtain ⟨first, more, begins, nonempty, notHere⟩ :=
    fileComponents_first (Text.splitAt_ne_nil _ _) plain
  obtain ⟨noMark, noSlash⟩ := keeps_of_splitAt (pieces.trans begins) nonempty notHere
  have forward : '\\' ∉ withEnding name.toList := by
    unfold withEnding
    split
    · exact plain.forward
    · simp [plain.forward, templateEnding]
  have whole : withSlashes (fileNameOf name) = withEnding name.toList := withSlashes_eq_self forward
  refine ⟨_, ?_, pieces⟩
  rw [pathEnding, whole]
  congr 1
  rcases withoutLead_cases name.toList with same | same | same
  · rw [congrArg withEnding same, noMark, noSlash]
  · rw [(congrArg withEnding same).trans (withEnding_slash ['.'] _)]
    exact (congrArg _ noMark).trans noSlash
  · rw [(congrArg withEnding same).trans (withEnding_slash [] _)]
    exact noSlash

/-! ### Matching paths -/

/-- A path that is written from the root on. -/
def IsAbsolute (path : String) : Prop :=
  path.toList.head? = some '/'

instance (path : String) : Decidable (IsAbsolute path) :=
  inferInstanceAs (Decidable (path.toList.head? = some '/'))

/-- The components of a path from the root on are what stands behind its slashes. -/
theorem IsAbsolute.pathComponents {path : String} (absolute : IsAbsolute path) :
    pathComponents path = (Text.splitAt '/' path.toList).tail := by
  unfold IsAbsolute at absolute
  unfold Dust.pathComponents
  cases text : path.toList with
  | nil => simp [text] at absolute
  | cons c rest =>
    obtain rfl : c = '/' := by simpa [text] using absolute
    simp [Text.splitAt]

/-- A path is taken for a plain name exactly if its last components are those of the name. -/
theorem matches_iff {path name : String} (absolute : IsAbsolute path)
    (forward : '\\' ∉ path.toList) (plain : IsPlainName name) :
    (pathEnding (fileNameOf name)).isSuffixOf (withSlashes path.toList) = true ↔
      EndsWithName path name := by
  obtain ⟨ending, same, components⟩ := pathEnding_of_plain plain
  rw [List.isSuffixOf_iff_suffix, withSlashes_eq_self forward, same, Text.mark_cons_suffix_iff,
    components, ← absolute.pathComponents]
  rfl

/-! ### The order of the index -/

namespace FileNode

mutual

/-- The entries of every directory are in the order of their names. -/
def IsSorted : FileNode → Prop
  | file _ => True
  | directory entries => Dict.Sorted entries ∧ EntriesSorted entries

/-- The directories among entries have theirs in order. -/
def EntriesSorted : List (String × FileNode) → Prop
  | [] => True
  | (_, node) :: rest => node.IsSorted ∧ EntriesSorted rest

end

/-- Whatever is among entries that are in order is in order. -/
theorem EntriesSorted.mem {entries : List (String × FileNode)} (sorted : EntriesSorted entries)
    {entry : String × FileNode} (mem : entry ∈ entries) : entry.2.IsSorted := by
  induction entries with
  | nil => cases mem
  | cons first rest induction =>
    rcases List.mem_cons.mp mem with rfl | behind
    · exact sorted.1
    · exact induction sorted.2 behind

/-- What names lead to in a tree in order is in order. -/
theorem IsSorted.get? {node inner : FileNode} {names : List String} (sorted : node.IsSorted)
    (found : node.get? names = some inner) : inner.IsSorted := by
  induction names generalizing node with
  | nil =>
    cases found
    exact sorted
  | cons name rest induction =>
    unfold FileNode.get? at found
    split at found
    · rename_i child isChild
      cases node with
      | file bytes => cases isChild
      | directory entries => exact induction (sorted.2.mem (Dict.mem_of_get? isChild)) found
    · cases found

mutual

/-- The ways to the files of a node begin with the way to the node. -/
theorem filePaths_under : ∀ (node : FileNode) (way : List String),
    ∀ path ∈ node.filePaths way, way <+: path
  | file _, _, _, mem => List.mem_singleton.mp mem ▸ List.prefix_rfl
  | directory entries, way, path, mem => by
    obtain ⟨name, -, under⟩ := entryPaths_under entries way path mem
    exact (List.prefix_append _ _).trans under

/-- The ways to the files of entries begin with the way to one of the entries. -/
theorem entryPaths_under : ∀ (entries : List (String × FileNode)) (way : List String),
    ∀ path ∈ FileNode.entryPaths way entries, ∃ name ∈ Dict.keys entries, way ++ [name] <+: path
  | [], _, _, mem => nomatch mem
  | (name, node) :: rest, way, path, mem => by
    rcases List.mem_append.mp mem with here | behind
    · exact ⟨name, List.mem_cons_self, filePaths_under node (way ++ [name]) path here⟩
    · obtain ⟨other, isKey, under⟩ := entryPaths_under rest way path behind
      exact ⟨other, List.mem_cons_of_mem _ isKey, under⟩

end

/-- Ways that part at two names are in the order of these names. -/
theorem lt_of_parting {way path later : List String} {name other : String} (less : name < other)
    (first : way ++ [name] <+: path) (second : way ++ [other] <+: later) : path < later := by
  obtain ⟨rest, rfl⟩ := first
  obtain ⟨more, rfl⟩ := second
  rw [List.append_assoc, List.append_assoc]
  exact List.append_left_lt (List.cons_lt_cons_iff.mpr (.inl less))

mutual

/-- The files of a tree in order are listed in the order of the names on the way to them. -/
theorem IsSorted.filePaths : ∀ {node : FileNode} (way : List String), node.IsSorted →
    (node.filePaths way).Pairwise (· < ·)
  | file _, _, _ => List.pairwise_singleton _ _
  | directory _, way, sorted => EntriesSorted.entryPaths way sorted.1 sorted.2

/-- The files of entries in order are listed in the order of the names on the way to them. -/
theorem EntriesSorted.entryPaths : ∀ {entries : List (String × FileNode)} (way : List String),
    Dict.Sorted entries → EntriesSorted entries → (FileNode.entryPaths way entries).Pairwise (· < ·)
  | [], _, _, _ => List.Pairwise.nil
  | (name, node) :: rest, way, names, sorted => by
    obtain ⟨before, others⟩ := List.pairwise_cons.mp names
    refine List.pairwise_append.mpr
      ⟨sorted.1.filePaths (way ++ [name]), sorted.2.entryPaths way others,
        fun path here later behind => ?_⟩
    obtain ⟨other, isKey, under⟩ := entryPaths_under rest way later behind
    exact lt_of_parting (before other isKey) (filePaths_under node _ path here) under

end

end FileNode

/-- Files are listed one directory after the other, and those under a directory in the order of the
names on the way to them. -/
structure Sources.Lists (sources : Sources) (listing : List String) : Prop where
  /-- The directories are searched in their order. -/
  directories : listing = sources.directories.flatMap sources.templateFilesUnder
  /-- Names that come first are followed first. -/
  walks : ∀ directory ∈ sources.directories, ∃ ways : List (List String),
    sources.templateFilesUnder directory = ways.map FilePath.textFromRoot ∧ ways.Pairwise (· < ·)

/-- The files of a tree in order are listed in order. -/
theorem Sources.lists_templateFiles {sources : Sources} (sorted : sources.files.root.IsSorted) :
    sources.Lists sources.templateFiles where
  directories := rfl
  walks directory _ := by
    unfold templateFilesUnder
    split
    · exact ⟨[], rfl, List.Pairwise.nil⟩
    · rename_i names _
      split
      · exact ⟨[], rfl, List.Pairwise.nil⟩
      · rename_i node found
        exact ⟨_, rfl, ((sorted.get? found).filePaths names).filter _⟩

/-! ### Finding -/

/-- A plain name that leads to no file as a path is that of the first listed file whose last
components are those of the name, and of none exactly if there is no such file. The files are listed
in the order of the directories and of the names under each of them. -/
theorem Store.locate_by_components {sources : Sources} {store : Store} {name : String}
    {base : Option FilePath}
    (listed : ∀ path ∈ (store.listing sources).1, IsAbsolute path ∧ '\\' ∉ path.toList)
    (plain : IsPlainName name) (absent : sources.directFile? base (fileNameOf name) = none) :
    let listing := (store.listing sources).1
    let found := (store.locate sources name base).1
    (∀ path, found = some path ↔
      ∃ before after, listing = before ++ path :: after ∧ EndsWithName path name ∧
        ∀ other ∈ before, ¬ EndsWithName other name) ∧
      (found = none ↔ ∀ path ∈ listing, ¬ EndsWithName path name) ∧
      (store.index = none → sources.files.root.IsSorted → sources.Lists listing) := by
  intro listing found
  have searched : found = listing.find? fun path => decide (EndsWithName path name) := by
    have byEnding : found = findByEnding? listing (fileNameOf name) := by
      simp only [found, locate, absent, listing]
    rw [byEnding]
    refine List.find?_congr fun path mem => ?_
    obtain ⟨absolute, forward⟩ := listed path mem
    rw [Bool.eq_iff_iff, decide_eq_true_eq]
    exact matches_iff absolute forward plain
  refine ⟨fun path => ?_, ?_, fun unlisted sorted => ?_⟩
  · rw [searched, List.find?_eq_some_iff_append]
    constructor
    · rintro ⟨ends, before, after, split, others⟩
      exact ⟨before, after, split, by simpa using ends, by simpa using others⟩
    · rintro ⟨before, after, split, ends, others⟩
      exact ⟨by simpa using ends, before, after, split, by simpa using others⟩
  · rw [searched, List.find?_eq_none]
    simp only [decide_eq_true_eq]
  · have fresh : listing = sources.templateFiles := by
      simp [listing, listing_fst, unlisted]
    rw [fresh]
    exact Sources.lists_templateFiles sorted

/-- Two directories with a file `header.dust`, only one of them in a directory `partials`. -/
def pages : Sources where
  files := ⟨.directory
    [("first", .directory
      [("page.dust", .file ByteArray.empty),
       ("xpartials", .directory [("header.dust", .file ByteArray.empty)])]),
     ("second", .directory
      [("partials", .directory [("header.dust", .file ByteArray.empty)])])], []⟩
  directories := ["/first", "/second"]

/-- A file is passed over if only a part of one of its components is in the name. -/
theorem Store.locate_by_components_pages :
    let store : Store := {}
    let listing := ["/first/page.dust", "/first/xpartials/header.dust",
      "/second/partials/header.dust"]
    (store.listing pages).1 = listing ∧
      (∀ path ∈ listing, IsAbsolute path ∧ '\\' ∉ path.toList) ∧
      IsPlainName "./partials/header" ∧
      pages.directFile? none (fileNameOf "./partials/header") = none ∧
      (store.locate pages "./partials/header" none).1 = some "/second/partials/header.dust" ∧
      pages.files.root.IsSorted ∧ pages.Lists listing := by
  intro store listing
  have lists : (store.listing pages).1 = listing := by decide +kernel
  have listed : ∀ path ∈ listing, IsAbsolute path ∧ '\\' ∉ path.toList := by decide +kernel
  have plain : IsPlainName "./partials/header" := by decide +kernel
  have absent : pages.directFile? none (fileNameOf "./partials/header") = none := by
    decide +kernel
  have sorted : pages.files.root.IsSorted :=
    ⟨by decide, ⟨by decide, trivial, ⟨by decide, trivial, trivial⟩, trivial⟩,
      ⟨by decide, ⟨by decide, trivial, trivial⟩, trivial⟩, trivial⟩
  obtain ⟨found, -, inOrder⟩ := Store.locate_by_components (lists.symm ▸ listed) plain absent
  refine ⟨lists, listed, plain, absent, (found "/second/partials/header.dust").mpr ?_, sorted,
    lists ▸ inOrder rfl sorted⟩
  exact ⟨["/first/page.dust", "/first/xpartials/header.dust"], [], lists, by decide +kernel,
    by decide +kernel⟩

end Dust
