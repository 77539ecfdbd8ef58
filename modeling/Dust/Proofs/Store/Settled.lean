import Dust.Proofs.Files.Naming
import Dust.Proofs.Render.Termination

/-!
# Stores in which names stay what they are

Loading a template by a name adds to the store, and what is added is found by other names later on.
Still a name leads to the same template whatever has been loaded before it, as long as the files
stay: what is kept is the template of a file under the path of the file, and this path leads to the
file anyway. So what names lead to can be told from the store in the beginning.
-/

namespace Dust

/-- What names lead to does not change while templates are loaded. If it is a template, it is one of
some templates. -/
structure Store.IsSettled (sources : Sources) (store : Store) (templates : List Template) :
    Prop where
  /-- A name leads to the same after templates have been loaded. -/
  steady : ∀ later, store.Evolves sources later → ∀ name base,
    (later.load sources name base).1 = (store.load sources name base).1
  /-- A name leads to one of the templates if it leads to one. -/
  known : ∀ name base template, (store.load sources name base).1 = .ok (some template) →
    template ∈ templates

/-! ### Stores without files -/

/-- Without files no file name leads to a file as a path. -/
theorem Sources.IsEmpty.directFile? {sources : Sources} (isEmpty : sources.IsEmpty)
    (base : Option FilePath) (fileName : List Char) : sources.directFile? base fileName = none := by
  unfold Sources.directFile?
  refine List.findSome?_eq_none_iff.mpr fun path _ => ?_
  cases isFile : sources.files.canonicalFile? path with
  | none => rfl
  | some names =>
    obtain ⟨leads, bytes, isThere⟩ := FileTree.canonicalFile?_eq_some isFile
    have unread := isEmpty.files path
    simp [FileTree.read?, leads, isThere] at unread

/-- Without files it makes no difference where they are looked for. -/
theorem Sources.IsEmpty.load_eq {sources : Sources} (isEmpty : sources.IsEmpty) (store : Store)
    (name : String) (base base' : Option FilePath) :
    store.load sources name base = store.load sources name base' := by
  simp only [Store.load, Store.loadLocated, Store.locate, isEmpty.directFile?]

namespace Store

variable {sources : Sources} {store : Store}

/-- Nothing is read from files, and no files are listed. -/
structure IsClosed (sources : Sources) (store : Store) : Prop where
  /-- No template is supplied, and no file can be read. -/
  isEmpty : sources.IsEmpty
  /-- No template file is listed. -/
  listing : (store.listing sources).1 = []

/-- Without files a name leads to the template that is kept under it. -/
theorem IsClosed.load (closed : store.IsClosed sources) (name : String) (base : Option FilePath) :
    (store.load sources name base).1 = .ok (store.get? name) := by
  unfold Store.load
  cases found : store.get? name with
  | some template => rfl
  | none =>
    have located : (store.locate sources name base).1 = none := by
      simp [locate, closed.isEmpty.directFile?, closed.listing, findByEnding?]
    simp only [closed.isEmpty.supplier, loadLocated]
    rcases run : store.locate sources name base with ⟨path, later⟩
    rw [run] at located
    cases located
    rfl

/-- The files are listed when there is no list of them. -/
theorem listing_fst (sources : Sources) (store : Store) :
    (store.listing sources).1 = store.index.getD sources.templateFiles := by
  unfold listing
  split <;> simp [*]

/-- Finding a file keeps the list of files. -/
theorem locate_listing (sources : Sources) (store : Store) (name : String)
    (base : Option FilePath) :
    ((store.locate sources name base).2.listing sources).1 = (store.listing sources).1 := by
  unfold locate
  dsimp only
  split
  · rfl
  · rw [listing_fst, listing_fst]
    unfold listing
    split <;> simp [*]

/-- Reading a file keeps the list of files. -/
theorem loadFile_index (sources : Sources) (store : Store) (path : String) :
    (store.loadFile sources path).2.index = store.index := by
  unfold loadFile
  split
  · rfl
  · split
    · rfl
    · split <;> rfl

/-- Compiling a source keeps the list of files. -/
theorem add_index (sources : Sources) (store : Store) (name source : String) :
    (store.add sources name source).2.index = store.index := by
  unfold add
  split <;> rfl

/-- Loading the template of a file keeps the list of files. -/
theorem loadLocated_listing (sources : Sources) (store : Store) (name : String)
    (base : Option FilePath) :
    ((store.loadLocated sources name base).2.listing sources).1 = (store.listing sources).1 := by
  have located := locate_listing sources store name base
  unfold loadLocated
  split
  · rename_i run
    rwa [run] at located
  · rename_i path later run
    rw [run, listing_fst] at located
    rw [listing_fst, ← located]
    exact congrArg (Option.getD · _) (loadFile_index sources later path)

/-- Loading a template keeps the list of files. -/
theorem load_listing (sources : Sources) (store : Store) (name : String) (base : Option FilePath) :
    ((store.load sources name base).2.listing sources).1 = (store.listing sources).1 := by
  unfold load
  split
  · rfl
  · split
    · rename_i source _
      rw [listing_fst, listing_fst]
      exact congrArg (Option.getD · _) (add_index sources store name source)
    · exact loadLocated_listing sources store name base

/-- Without files the store stays the same while templates are loaded. -/
theorem IsClosed.evolves (closed : store.IsClosed sources) {later : Store}
    (evolves : store.Evolves sources later) :
    later.IsClosed sources ∧ later.templates = store.templates := by
  induction evolves with
  | refl => exact ⟨closed, rfl⟩
  | @tail between after _ loads induction =>
    obtain ⟨name, base, rfl⟩ := loads
    obtain ⟨closed, same⟩ := induction
    have kept := (between.load_of_isEmpty closed.isEmpty name base).1
    exact ⟨⟨closed.isEmpty, (load_listing sources between name base).trans closed.listing⟩,
      kept.trans same⟩

/-- Without files all names stay what they are. -/
theorem IsClosed.isSettled (closed : store.IsClosed sources) :
    store.IsSettled sources store.templates.values where
  steady later evolves name base := by
    obtain ⟨stays, same⟩ := closed.evolves evolves
    rw [stays.load, closed.load, get?, get?, same]
  known name base template found := by
    rw [closed.load] at found
    have isKept : store.get? name = some template := Except.ok.inj found
    exact List.mem_map.mpr ⟨(name, template), Dict.mem_of_get? isKept, rfl⟩

end Store

/-! ### Stores with files -/

namespace Sources

variable {sources : Sources}

/-- The template of a file that is read anew. -/
def readTemplate (sources : Sources) (path : String) : Except Error Template :=
  (Store.loadFile sources {} path).1

/-- The names that lead to a template file, whose path is written from the root on. -/
structure LeadsTo (sources : Sources) (names : List String) (path : String) : Prop where
  /-- The names lead to a file. -/
  isFile : names ∈ sources.files.root.filePaths []
  /-- The path is written from the root on. -/
  text : path = FilePath.textFromRoot names
  /-- The last name is that of a template file. -/
  ending : ∃ front last, names = front ++ [last] ∧ templateEnding <:+ last.toList

/-- A file name ends as those of template files do. -/
theorem fileNameOf_ending (name : String) : templateEnding <:+ fileNameOf name := by
  unfold fileNameOf
  split
  · rename_i isEnding
    exact List.isSuffixOf_iff_suffix.mp isEnding
  · exact List.suffix_append _ _

/-- A file name that is tried as a path leads to a template file. -/
theorem directFile?_leadsTo {base : Option FilePath} {name path : String}
    (found : sources.directFile? base (fileNameOf name) = some path) :
    ∃ names, sources.LeadsTo names path := by
  obtain ⟨candidate, mem, isFile⟩ := List.exists_of_findSome?_eq_some found
  obtain ⟨names, isFile, text⟩ := Option.map_eq_some_iff.mp isFile
  obtain ⟨leads, bytes, isThere⟩ := FileTree.canonicalFile?_eq_some isFile
  obtain ⟨front, last, components, isEnding⟩ :=
    FilePath.ofString_ending (fileNameOf_ending name) (by decide) (by decide)
  have ends : ∃ before, candidate.components = before ++ [String.ofList last] := by
    unfold candidates at mem
    dsimp only at mem
    split at mem
    · split at mem
      · cases List.mem_singleton.mp mem
        exact ⟨front, components⟩
      · rename_i directory relative
        rcases List.mem_cons.mp mem with rfl | mem
        · refine ⟨directory.components ++ front, ?_⟩
          simp [FilePath.join, relative, components]
        · cases List.mem_singleton.mp mem
          exact ⟨front, components⟩
    · cases List.mem_singleton.mp mem
      exact ⟨front, components⟩
  obtain ⟨before, components⟩ := ends
  have long := isEnding.length_le
  have notDots (dots : String) (short : dots.toList.length < templateEnding.length) :
      String.ofList last ≠ dots := by
    rintro rfl
    rw [String.toList_ofList] at short
    omega
  unfold FileTree.canonical? at leads
  rw [components] at leads
  obtain ⟨way, same⟩ :=
    FileTree.follow?_last (notDots "." (by decide)) (notDots ".." (by decide)) leads
  exact ⟨names, FileNode.mem_filePaths isThere, text.symm, way, String.ofList last, same,
    by rwa [String.toList_ofList]⟩

/-- A file that is listed is a template file. -/
theorem templateFiles_leadsTo {path : String} (mem : path ∈ sources.templateFiles) :
    ∃ names, sources.LeadsTo names path := by
  obtain ⟨directory, -, under⟩ := List.mem_flatMap.mp mem
  unfold templateFilesUnder at under
  split at under
  · cases under
  · split at under
    · cases under
    · rename_i way _ node found
      obtain ⟨names, isTemplate, text⟩ := List.mem_map.mp under
      obtain ⟨listed, isTemplate⟩ := List.mem_filter.mp isTemplate
      refine ⟨names, FileNode.filePaths_of_get? found listed, text.symm, ?_⟩
      unfold isTemplateFile at isTemplate
      split at isTemplate
      · rename_i last isLast
        obtain ⟨front, same⟩ := List.getLast?_eq_some_iff.mp isLast
        rw [Bool.and_eq_true] at isTemplate
        exact ⟨front, last, same, List.isSuffixOf_iff_suffix.mp isTemplate.1⟩
      · cases isTemplate

/-- The path of a template file that can be read leads to this file, from any directory. -/
theorem directFile?_of_leadsTo (named : sources.files.IsNamed) {names : List String}
    {path : String} {template : Template} (leadsTo : sources.LeadsTo names path)
    (read : sources.readTemplate path = .ok template) (base : Option FilePath) :
    sources.directFile? base (fileNameOf path) = some path := by
  obtain ⟨isFile, text, front, last, same, isEnding⟩ := leadsTo
  have nonempty : names ≠ [] := by simp [same]
  have isNamed := named names isFile
  have pathEnds : templateEnding <:+ path.toList := by
    rw [text, FilePath.textFromRoot, String.toList_ofList, same, List.flatMap_append]
    refine List.IsSuffix.trans ?_ (List.suffix_append _ _)
    simpa using isEnding.trans (List.suffix_cons '/' _)
  have fileName : fileNameOf path = path.toList := by
    simp [fileNameOf, pathEnds]
  have readable : ∃ bytes, sources.files.read? (.ofString path) = some bytes := by
    cases content : sources.files.read? (.ofString path) with
    | some bytes => exact ⟨bytes, rfl⟩
    | none =>
      have absent : Store.get? {} path = none := rfl
      simp [readTemplate, Store.loadFile, absent, Store.readText, content] at read
  obtain ⟨bytes, readable⟩ := readable
  have components := FilePath.ofString_textFromRoot isNamed nonempty
  rw [← text] at components
  have alone : candidates base (fileNameOf path) = [.ofString path] := by
    unfold candidates
    rw [fileName, String.ofList_toList, components]
    cases base <;> rfl
  have isThere := FileTree.canonicalFile?_textFromRoot isNamed nonempty (text ▸ readable)
  rw [← text] at isThere
  rw [directFile?, alone, List.findSome?_cons, isThere, text]
  rfl

end Sources

namespace Store

variable {sources : Sources} {store later : Store}

/-- The files are listed as they are. -/
def ListsFiles (sources : Sources) (store : Store) : Prop :=
  ∀ index, store.index = some index → index = sources.templateFiles

/-- The template of a file that is not kept is read anew. -/
theorem loadFile_of_absent {path : String} (absent : store.get? path = none) :
    (store.loadFile sources path).1 = sources.readTemplate path := by
  have empty : get? {} path = none := rfl
  unfold Sources.readTemplate loadFile
  rw [absent, empty]
  dsimp only
  split
  · rfl
  · split <;> rfl

/-- A file that is found is a template file. -/
theorem locate_leadsTo (lists : (store.listing sources).1 = sources.templateFiles) {name : String}
    {base : Option FilePath} {path : String}
    (found : (store.locate sources name base).1 = some path) :
    ∃ names, sources.LeadsTo names path := by
  unfold locate at found
  dsimp only at found
  split at found
  · rename_i direct
    cases found
    exact Sources.directFile?_leadsTo direct
  · rw [lists] at found
    exact Sources.templateFiles_leadsTo (List.mem_of_find?_eq_some found)

/-- One store has more templates than another one, which have been read from files and are kept
under the paths of these. -/
structure Follows (sources : Sources) (store later : Store) : Prop where
  /-- The same files are listed. -/
  listing : (later.listing sources).1 = (store.listing sources).1
  /-- What is kept under a name has been before, or is the template of the file with this path. -/
  names : ∀ name, later.get? name = store.get? name ∨
    store.get? name = none ∧ ∃ names template, later.get? name = some template ∧
      sources.LeadsTo names name ∧ sources.readTemplate name = .ok template

/-- A file is found in the same way while the same files are listed. -/
theorem Follows.locate (follows : store.Follows sources later) (name : String)
    (base : Option FilePath) :
    (later.locate sources name base).1 = (store.locate sources name base).1 := by
  unfold Store.locate
  dsimp only
  split
  · rfl
  · rw [follows.listing]

/-- The template of a file is the same whether it is kept or read anew. -/
theorem Follows.loadFile (follows : store.Follows sources later) (path : String) :
    (later.loadFile sources path).1 = (store.loadFile sources path).1 := by
  rcases follows.names path with same | ⟨absent, names, template, kept, -, read⟩
  · cases found : store.get? path with
    | some template =>
      rw [found] at same
      simp [Store.loadFile, found, same]
    | none =>
      rw [found] at same
      rw [loadFile_of_absent found, loadFile_of_absent same]
  · rw [loadFile_of_absent absent, read]
    simp [Store.loadFile, kept]

/-- What is found as a file does not depend on the templates that have been read. -/
theorem loadLocated_fst (sources : Sources) (store : Store) (name : String)
    (base : Option FilePath) :
    (store.loadLocated sources name base).1 =
      match (store.locate sources name base).1 with
      | none => .ok none
      | some path => (store.loadFile sources path).1.map some := by
  have kept := locate_templates sources store name base
  unfold loadLocated
  rcases run : store.locate sources name base with ⟨path, between⟩
  rw [run] at kept
  cases path with
  | none => rfl
  | some path =>
    have same (path : String) : between.get? path = store.get? path := by
      rw [get?, get?, kept]
    cases found : store.get? path with
    | some template => simp [loadFile, same, found]
    | none =>
      dsimp only
      rw [loadFile_of_absent found, loadFile_of_absent ((same path).trans found)]

/-- A name leads to the same file in both stores. -/
theorem Follows.loadLocated (follows : store.Follows sources later) (name : String)
    (base : Option FilePath) :
    (later.loadLocated sources name base).1 = (store.loadLocated sources name base).1 := by
  rw [loadLocated_fst, loadLocated_fst, follows.locate]
  split
  · rfl
  · rw [follows.loadFile]

/-- Without a supplier, a name that is not kept is looked for as a file. -/
theorem load_of_absent (supplier : ∀ name, sources.supplier name = none) {name : String}
    (absent : store.get? name = none) (base : Option FilePath) :
    store.load sources name base = store.loadLocated sources name base := by
  simp [load, absent, supplier]

/-- A name leads to the same in both stores. -/
theorem Follows.load (supplier : ∀ name, sources.supplier name = none)
    (named : sources.files.IsNamed) (follows : store.Follows sources later) (name : String)
    (base : Option FilePath) :
    (later.load sources name base).1 = (store.load sources name base).1 := by
  rcases follows.names name with same | ⟨absent, names, template, kept, leadsTo, read⟩
  · cases found : store.get? name with
    | some template =>
      rw [found] at same
      simp [Store.load, found, same]
    | none =>
      rw [found] at same
      rw [load_of_absent supplier found, load_of_absent supplier same, follows.loadLocated]
  · have direct := Sources.directFile?_of_leadsTo named leadsTo read base
    have located : (store.locate sources name base).1 = some name := by
      simp [Store.locate, direct]
    rw [load_of_absent supplier absent, loadLocated_fst, located]
    simp [loadFile_of_absent absent, read, Store.load, kept, Except.map]

/-- Reading a file keeps the template of the file at most. -/
theorem loadFile_follows {names : List String} {path : String}
    (leadsTo : sources.LeadsTo names path) :
    store.Follows sources (store.loadFile sources path).2 where
  listing := by
    rw [listing_fst, listing_fst, loadFile_index]
  names name := by
    unfold loadFile
    split
    · exact .inl rfl
    · rename_i absent
      have fresh := @loadFile_of_absent sources _ _ absent
      unfold loadFile at fresh
      rw [absent] at fresh
      dsimp only at fresh
      split
      · exact .inl rfl
      · rename_i source text
        rw [text] at fresh
        dsimp only at fresh
        split
        · exact .inl rfl
        · rename_i template compiled
          rw [compiled] at fresh
          by_cases same : name = path
          · subst same
            exact .inr ⟨absent, names, _, Dict.get?_insert_self _ _ _, leadsTo, fresh.symm⟩
          · exact .inl (Dict.get?_insert_of_ne _ _ same)

/-- A store is reached from itself. -/
theorem Follows.refl (sources : Sources) (store : Store) : store.Follows sources store :=
  ⟨rfl, fun _ => .inl rfl⟩

/-- More templates can be read after some have been. -/
theorem Follows.trans {last : Store} (first : store.Follows sources later)
    (second : later.Follows sources last) : store.Follows sources last where
  listing := second.listing.trans first.listing
  names name := by
    rcases second.names name with same | ⟨absent, names, template, kept, leadsTo, read⟩
    · rw [same]
      exact first.names name
    · rcases first.names name with same | ⟨-, _, template', kept', -⟩
      · exact .inr ⟨same ▸ absent, names, template, kept, leadsTo, read⟩
      · rw [absent] at kept'
        cases kept'

/-- Looking for a file keeps all templates. -/
theorem locate_follows (sources : Sources) (store : Store) (name : String)
    (base : Option FilePath) : store.Follows sources (store.locate sources name base).2 where
  listing := locate_listing sources store name base
  names other := .inl (by rw [get?, get?, locate_templates])

/-- Loading the template of a file reads the file at most. -/
theorem loadLocated_follows (lists : (store.listing sources).1 = sources.templateFiles)
    (name : String) (base : Option FilePath) :
    store.Follows sources (store.loadLocated sources name base).2 := by
  have located := locate_follows sources store name base
  have isFile (path : String) := @locate_leadsTo sources store lists name base path
  unfold loadLocated
  split
  · rename_i run
    rwa [run] at located
  · rename_i path between run
    rw [run] at located isFile
    obtain ⟨names, leadsTo⟩ := isFile path rfl
    exact located.trans (loadFile_follows leadsTo)

/-- Loading a template reads a file at most. -/
theorem load_follows (supplier : ∀ name, sources.supplier name = none)
    (lists : (store.listing sources).1 = sources.templateFiles) (name : String)
    (base : Option FilePath) : store.Follows sources (store.load sources name base).2 := by
  cases found : store.get? name with
  | some template =>
    have same : (store.load sources name base).2 = store := by simp [load, found]
    rw [same]
    exact .refl sources store
  | none =>
    rw [load_of_absent supplier found]
    exact loadLocated_follows lists name base

/-- The same files are listed if they are listed as they are. -/
theorem ListsFiles.listing (lists : store.ListsFiles sources) :
    (store.listing sources).1 = sources.templateFiles := by
  unfold Store.listing
  split
  · rename_i index same
    exact lists index same
  · rfl

/-- Whatever is loaded, only files are read. -/
theorem Evolves.follows (supplier : ∀ name, sources.supplier name = none)
    (lists : store.ListsFiles sources) (evolves : store.Evolves sources later) :
    store.Follows sources later := by
  induction evolves with
  | refl => exact .refl sources store
  | @tail between after _ loads induction =>
    obtain ⟨name, base, rfl⟩ := loads
    have same := induction.listing.trans lists.listing
    exact induction.trans (load_follows supplier same name base)

/-- The templates that are kept, and those of all files. -/
def allTemplates (sources : Sources) (store : Store) : List Template :=
  store.templates.values ++ (sources.files.root.filePaths []).filterMap fun names =>
    (sources.readTemplate (FilePath.textFromRoot names)).toOption

/-- The template of a file, kept or not, is one of all templates. -/
theorem loadFile_mem_allTemplates {names : List String} {path : String}
    (leadsTo : sources.LeadsTo names path) {template : Template}
    (loaded : (store.loadFile sources path).1 = .ok template) :
    template ∈ store.allTemplates sources := by
  cases found : store.get? path with
  | some kept =>
    simp only [loadFile, found, Except.ok.injEq] at loaded
    subst loaded
    exact List.mem_append_left _ (List.mem_map.mpr ⟨(path, kept), Dict.mem_of_get? found, rfl⟩)
  | none =>
    rw [loadFile_of_absent found, leadsTo.text] at loaded
    refine List.mem_append_right _ (List.mem_filterMap.mpr ⟨names, leadsTo.isFile, ?_⟩)
    rw [loaded]
    rfl

/-- Without a supplier all names stay what they are while templates are read from files. -/
theorem isSettled_of_files (supplier : ∀ name, sources.supplier name = none)
    (named : sources.files.IsNamed) (lists : store.ListsFiles sources) :
    store.IsSettled sources (store.allTemplates sources) where
  steady _ evolves name base := (evolves.follows supplier lists).load supplier named name base
  known name base template loaded := by
    cases found : store.get? name with
    | some kept =>
      simp only [load, found, Except.ok.injEq, Option.some.injEq] at loaded
      subst loaded
      exact List.mem_append_left _ (List.mem_map.mpr ⟨(name, kept), Dict.mem_of_get? found, rfl⟩)
    | none =>
      rw [load_of_absent supplier found, loadLocated_fst] at loaded
      split at loaded
      · cases loaded
      · rename_i path located
        obtain ⟨names, leadsTo⟩ := locate_leadsTo lists.listing located
        cases isFile : (store.loadFile sources path).1 with
        | error error =>
          rw [isFile] at loaded
          cases loaded
        | ok read =>
          rw [isFile] at loaded
          cases loaded
          exact loadFile_mem_allTemplates leadsTo isFile

end Store

end Dust
