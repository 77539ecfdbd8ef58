import Dust.Proofs.Engine.Archive
import Dust.Proofs.Engine.OnDemand

/-!
# What calls change of the templates

Templates are kept by adding a source, by loading a template, by compiling a file and by reading an
archive. A call that fails leaves the templates as they are. A call that does not fail keeps what it
answers with under the names that it is given, or under the path of a file that was not kept before,
and leaves all others.
-/

namespace Dust

/-! ### Dictionaries -/

namespace Dict

variable {α : Type}

/-- Names that are not inserted keep their values. -/
theorem get?_insertAll_of_notMem {entries : Dict α} {added : List (String × α)} {name : String}
    (isOther : name ∉ added.map Prod.fst) :
    (entries.insertAll added).get? name = entries.get? name := by
  induction added generalizing entries with
  | nil => rfl
  | cons entry rest induction =>
    rw [List.map_cons, List.mem_cons, not_or] at isOther
    exact (induction isOther.2).trans (get?_insert_of_ne entries entry.2 isOther.1)

/-- Names that are inserted once have the values that are given to them. -/
theorem get?_insertAll_of_mem {entries : Dict α} {added : List (String × α)} {name : String}
    {value : α} (once : (added.map Prod.fst).Nodup) (mem : (name, value) ∈ added) :
    (entries.insertAll added).get? name = some value := by
  induction added generalizing entries with
  | nil => cases mem
  | cons entry rest induction =>
    rw [List.map_cons, List.nodup_cons] at once
    rcases List.mem_cons.mp mem with rfl | mem
    · exact (get?_insertAll_of_notMem once.1).trans (get?_insert_self entries name value)
    · exact induction once.2 mem

/-- Inserted entries are in order with the others. -/
theorem Sorted.insertAll {entries : Dict α} (sorted : Sorted entries)
    (added : List (String × α)) : Sorted (entries.insertAll added) := by
  induction added generalizing entries with
  | nil => exact sorted
  | cons entry rest induction => exact induction (sorted.insert entry.1 entry.2)

/-- No name is twice in the dictionary of a list. -/
theorem nodup_keys_ofList (entries : List (String × α)) :
    ((ofList entries).map Prod.fst).Nodup := by
  have empty : Sorted ([] : Dict α) := List.Pairwise.nil
  have sorted : Sorted (ofList entries) := empty.insertAll entries
  refine List.Pairwise.imp (fun {first second} (less : first < second) same => ?_) sorted
  exact String.lt_irrefl second (same ▸ less)

end Dict

/-! ### Stores -/

/-- A path that leads to a file, and is the one that is written from the root on. -/
def Sources.IsCanonical (sources : Sources) (path : String) : Prop :=
  (sources.files.canonicalFile? (.ofString path)).map FilePath.textFromRoot = some path

/-- A text that is written from the root on with names that files can have. -/
def FilePath.IsFromRoot (path : String) : Prop :=
  ∃ names, names ≠ [] ∧ (∀ name ∈ names, IsFileName name) ∧ path = textFromRoot names

namespace Store

/-- If files have been listed, by their paths from the root on. The files may have changed since. -/
def ListsPaths (store : Store) : Prop :=
  ∀ index, store.index = some index → ∀ path ∈ index, FilePath.IsFromRoot path

/-- The templates of a store are those of another one, but for some that have been added in place of
those of their names. -/
structure Adds (store later : Store) (added : Dict Template) : Prop where
  /-- What has been added is kept. -/
  kept : ∀ name template, (name, template) ∈ added → later.get? name = some template
  /-- All others are what they were. -/
  others : ∀ name, name ∉ added.keys → later.get? name = store.get? name

/-- What an operation leaves: the same templates if it fails, and otherwise those before with some
that its answer allows. -/
structure ChangesOnly {ε α : Type} (store : Store) (allowed : α → Dict Template → Prop)
    (ran : Except ε α × Store) : Prop where
  /-- A failure changes nothing. -/
  failed : ∀ error, ran.1 = .error error → ran.2.templates = store.templates
  /-- What is added goes with the answer. -/
  answered : ∀ answer, ran.1 = .ok answer → ∃ added, allowed answer added ∧ store.Adds ran.2 added

/-- What may be added when a name is loaded: nothing, or the template that is found, under the name
or under the canonical path of a file. Nothing has been kept there before. -/
inductive MayAdd (sources : Sources) (store : Store) (name : String) :
    Option Template → Dict Template → Prop where
  /-- Nothing is added. -/
  | nothing (found : Option Template) : MayAdd sources store name found []
  /-- The template is added under the name. -/
  | supplied {template : Template} (absent : store.get? name = none) :
    MayAdd sources store name (some template) [(name, template)]
  /-- The template is added under the path of its file. -/
  | file {path : String} {template : Template} (absent : store.get? path = none)
    (canonical : sources.IsCanonical path) :
    MayAdd sources store name (some template) [(path, template)]

variable {sources : Sources} {store : Store}

/-- A step that fails with the same templates changes nothing. -/
theorem ChangesOnly.failure {ε α : Type} {allowed : α → Dict Template → Prop} {error : ε}
    {later : Store} (same : later.templates = store.templates) :
    store.ChangesOnly allowed (.error error, later) where
  failed _ _ := same
  answered _ isAnswer := by cases isAnswer

/-- A step that answers changes what its answer allows. -/
theorem ChangesOnly.answer {ε α : Type} {allowed : α → Dict Template → Prop} {answer : α}
    {later : Store} {added : Dict Template} (isAllowed : allowed answer added)
    (adds : store.Adds later added) :
    store.ChangesOnly allowed ((.ok answer : Except ε α), later) where
  failed _ isFailure := by cases isFailure
  answered _ isAnswer := by
    cases isAnswer
    exact ⟨added, isAllowed, adds⟩

/-- With the same templates nothing has been added. -/
theorem Adds.nothing {later : Store} (same : later.templates = store.templates) :
    store.Adds later [] where
  kept _ _ mem := by cases mem
  others _ _ := by rw [get?, get?, same]

/-- A template that is kept under a name has been added. -/
theorem Adds.register (store : Store) (name : String) (template : Template) :
    store.Adds (store.register name template) [(name, template)] where
  kept other added mem := by
    cases List.mem_singleton.mp mem
    exact Dict.get?_insert_self _ _ _
  others other isOther :=
    Dict.get?_insert_of_ne _ _ fun same => isOther (List.mem_singleton.mpr same)

/-- What has been added to a store has been added to every store with the same templates. -/
theorem Adds.of_same {between later : Store} {added : Dict Template}
    (same : between.templates = store.templates) (adds : between.Adds later added) :
    store.Adds later added where
  kept := adds.kept
  others name isOther := by
    rw [adds.others name isOther, get?, get?, same]

/-- A source that is compiled is kept under its name. -/
theorem add_changesOnly (sources : Sources) (store : Store) (name source : String) :
    store.ChangesOnly (fun template added => added = [(name, template)])
      (store.add sources name source) := by
  unfold add
  cases compileSource sources.whitespace source with
  | error error => exact .failure rfl
  | ok template => exact .answer rfl (.register store name template)

/-- A file that can be read under a path from the root on has this path. -/
theorem isCanonical_of_readText {path text : String} (isPath : FilePath.IsFromRoot path)
    (read : readText sources path = .ok text) : sources.IsCanonical path := by
  obtain ⟨names, nonempty, named, rfl⟩ := isPath
  unfold readText at read
  split at read
  · cases read
  · rename_i bytes isThere
    unfold Sources.IsCanonical
    rw [FileTree.canonicalFile?_textFromRoot named nonempty isThere]
    rfl

/-- A file that is found in the tree has a path from the root on. -/
theorem isFromRoot_of_leadsTo (isNamed : sources.files.IsNamed) {names : List String}
    {path : String} (leadsTo : sources.LeadsTo names path) : FilePath.IsFromRoot path := by
  obtain ⟨isFile, text, front, last, same, -⟩ := leadsTo
  exact ⟨names, by simp [same], isNamed names isFile, text⟩

/-- Files are listed by their paths from the root on. -/
theorem ListsPaths.listing (lists : store.ListsPaths) (isNamed : sources.files.IsNamed) :
    ∀ path ∈ (store.listing sources).1, FilePath.IsFromRoot path := by
  intro path mem
  rw [listing_fst] at mem
  cases listed : store.index with
  | some index =>
    rw [listed] at mem
    exact lists index listed path mem
  | none =>
    rw [listed] at mem
    obtain ⟨names, leadsTo⟩ := Sources.templateFiles_leadsTo mem
    exact isFromRoot_of_leadsTo isNamed leadsTo

/-- A file that a name leads to has a path from the root on. -/
theorem ListsPaths.locate (lists : store.ListsPaths) (isNamed : sources.files.IsNamed)
    {name path : String} {base : Option FilePath}
    (found : (store.locate sources name base).1 = some path) : FilePath.IsFromRoot path := by
  unfold Store.locate at found
  dsimp only at found
  split at found
  · rename_i direct
    cases found
    obtain ⟨names, leadsTo⟩ := Sources.directFile?_leadsTo direct
    exact isFromRoot_of_leadsTo isNamed leadsTo
  · exact lists.listing isNamed path (List.mem_of_find?_eq_some found)

/-- Files stay listed by their paths if the same files are listed. -/
theorem ListsPaths.of_same (lists : store.ListsPaths) (isNamed : sources.files.IsNamed)
    {later : Store} (same : (later.listing sources).1 = (store.listing sources).1) :
    later.ListsPaths := by
  intro index listed path mem
  rw [listing_fst, listed, Option.getD_some] at same
  exact lists.listing isNamed path (same ▸ mem)

/-- Whatever is loaded, files stay listed by their paths. -/
theorem ListsPaths.evolves (lists : store.ListsPaths) (isNamed : sources.files.IsNamed)
    {later : Store} (evolves : store.Evolves sources later) : later.ListsPaths := by
  induction evolves with
  | refl => exact lists
  | @tail between _ _ loads induction =>
    obtain ⟨name, base, rfl⟩ := loads
    exact induction.of_same isNamed (load_listing sources between name base)

/-- The template of a file is kept under the path of the file. -/
theorem loadFile_changesOnly {path : String} (isPath : FilePath.IsFromRoot path) (name : String) :
    store.ChangesOnly (fun template added => store.MayAdd sources name (some template) added)
      (store.loadFile sources path) := by
  unfold loadFile
  cases absent : store.get? path with
  | some template => exact .answer (.nothing _) (.nothing rfl)
  | none =>
    dsimp only
    cases read : readText sources path with
    | error error => exact .failure rfl
    | ok source =>
      have canonical := isCanonical_of_readText isPath read
      dsimp only
      cases compileSource sources.whitespace source with
      | error error => exact .failure rfl
      | ok template => exact .answer (.file absent canonical) (.register store path _)

/-- What a step answers may be told in another way, and the store before it may be one with the same
templates. -/
theorem ChangesOnly.map {ε α β : Type} {between : Store} {allowed : α → Dict Template → Prop}
    {allowed' : β → Dict Template → Prop} {tell : α → β} {ran : Except ε α × Store}
    (same : between.templates = store.templates) (changes : between.ChangesOnly allowed ran)
    (implies : ∀ answer added, allowed answer added → allowed' (tell answer) added) :
    store.ChangesOnly allowed' (ran.1.map tell, ran.2) := by
  obtain ⟨result, later⟩ := ran
  cases result with
  | error error => exact .failure ((changes.failed error rfl).trans same)
  | ok answer =>
    obtain ⟨added, isAllowed, adds⟩ := changes.answered answer rfl
    exact .answer (implies answer added isAllowed) (adds.of_same same)

/-- The template of the file that a name leads to is kept under the path of the file. -/
theorem loadLocated_changesOnly (lists : store.ListsPaths) (isNamed : sources.files.IsNamed)
    (name : String) (base : Option FilePath) :
    store.ChangesOnly (store.MayAdd sources name) (store.loadLocated sources name base) := by
  have same := locate_templates sources store name base
  have isPath (path : String) := @ListsPaths.locate sources store lists isNamed name path base
  unfold loadLocated
  rcases run : store.locate sources name base with ⟨_ | path, between⟩
  · rw [run] at same
    exact .answer (.nothing none) (.nothing same)
  · rw [run] at same isPath
    refine (loadFile_changesOnly (isPath path rfl) name).map same fun template added may => ?_
    cases may with
    | nothing => exact .nothing _
    | supplied absent => exact .supplied (by rwa [get?, ← same])
    | file absent canonical => exact .file (by rwa [get?, ← same]) canonical

/-- The template that a name leads to is kept under the name or under the path of its file. -/
theorem load_changesOnly (lists : store.ListsPaths) (isNamed : sources.files.IsNamed)
    (name : String) (base : Option FilePath) :
    store.ChangesOnly (store.MayAdd sources name) (store.load sources name base) := by
  unfold load
  cases absent : store.get? name with
  | some template => exact .answer (.nothing _) (.nothing rfl)
  | none =>
    dsimp only
    cases sources.supplier name with
    | none => exact loadLocated_changesOnly lists isNamed name base
    | some source =>
      refine (add_changesOnly sources store name source).map rfl fun template added same => ?_
      subst same
      exact .supplied absent

/-- Templates that are inserted in the order of their names have been added. -/
theorem Adds.insertAll (store : Store) (entries : List (String × Template)) :
    store.Adds { store with templates := store.templates.insertAll (Dict.ofList entries) }
      (Dict.ofList entries) where
  kept _ _ := Dict.get?_insertAll_of_mem (Dict.nodup_keys_ofList entries)
  others _ := Dict.get?_insertAll_of_notMem

end Store

/-! ### Engines -/

/-- The names in a JSON text that holds an object. -/
def Json.IsNameIn (text name : String) : Prop :=
  ∃ json entries, Json.parse? text.toList = some json ∧ json.entries? = some entries ∧
    name ∈ entries.map Prod.fst

/-- Reading what stands under names keeps the names. -/
theorem Json.names_of_mapM {α : Type} {read : Json → Option α} {entries : List (String × Json)}
    {list : List (String × α)}
    (each : entries.mapM (fun entry => do some (entry.1, ← read entry.2)) = some list) :
    list.map Prod.fst = entries.map Prod.fst := by
  induction entries generalizing list with
  | nil =>
    cases each
    rfl
  | cons entry rest induction =>
    rw [List.mapM_cons] at each
    obtain ⟨first, here, each⟩ := Option.bind_eq_some_iff.mp each
    obtain ⟨value, -, here⟩ := Option.bind_eq_some_iff.mp here
    obtain ⟨later, others, each⟩ := Option.bind_eq_some_iff.mp each
    cases here
    cases each
    rw [List.map_cons, List.map_cons, induction others]

/-- The templates that an archive holds are the dictionary of a list, and their names are names in
the text. -/
theorem Template.ofArchive?_names {text : String} {templates : Dict Template}
    (read : Template.ofArchive? text = some templates) :
    ∃ entries, templates = Dict.ofList entries ∧
      ∀ name ∈ templates.keys, Json.IsNameIn text name := by
  obtain ⟨json, parsed, read⟩ := Option.bind_eq_some_iff.mp read
  obtain ⟨entries, isObject, read⟩ := Option.bind_eq_some_iff.mp read
  obtain ⟨list, each, read⟩ := Option.bind_eq_some_iff.mp read
  obtain rfl : Dict.ofList list = templates := Option.some.inj read
  refine ⟨list, rfl, fun name mem => ⟨json, entries, parsed, isObject, ?_⟩⟩
  obtain ⟨entry, isIn, rfl⟩ := List.mem_map.mp mem
  rw [← Json.names_of_mapM each]
  exact List.mem_map_of_mem (Dict.mem_ofList isIn)

/-- What a step of an engine leaves: the same templates if it fails, and otherwise those before with
some that its answer allows. Everything but the store stays in any case. -/
structure Engine.ChangesOnly {α : Type} (engine : Engine) (allowed : α → Dict Template → Prop)
    (step : EngineM α) : Prop where
  /-- The settings stay. -/
  settings : (step.run engine).2 = { engine with store := (step.run engine).2.store }
  /-- Templates are changed only if there is an answer. -/
  store : engine.store.ChangesOnly allowed ((step.run engine).1, (step.run engine).2.store)

namespace Engine

variable {engine : Engine}

/-- A step of the store changes what it changes of the store. -/
theorem changesOnly_onStore {α : Type} {allowed : α → Dict Template → Prop}
    {step : Sources → Store → Except Error α × Store}
    (changes : engine.store.ChangesOnly allowed (step engine.sources engine.store)) :
    engine.ChangesOnly allowed (EngineM.onStore step) := by
  have run := EngineM.onStore_run step engine
  rcases stepped : step engine.sources engine.store with ⟨result, later⟩
  rw [stepped] at changes run
  refine ⟨by rw [run], ?_⟩
  rw [run]
  cases result with
  | error error => exact .failure (changes.failed error rfl)
  | ok answer =>
    obtain ⟨added, isAllowed, adds⟩ := changes.answered answer rfl
    exact .answer isAllowed adds

/-- Adding a source changes the template of the name. -/
theorem changesOnly_add (engine : Engine) (name source : String) :
    engine.ChangesOnly (fun template added => added = [(name, template)])
      (EngineM.add name source) := by
  unfold EngineM.add
  exact changesOnly_onStore (Store.add_changesOnly engine.sources engine.store name source)

/-- Loading a template adds what the name leads to. -/
theorem changesOnly_load (named : engine.sources.files.IsNamed) (lists : engine.store.ListsPaths)
    (name : String) :
    engine.ChangesOnly (engine.store.MayAdd engine.sources name) (EngineM.load name) := by
  unfold EngineM.load EngineM.loadFrom
  exact changesOnly_onStore (Store.load_changesOnly lists named name none)

/-- Compiling a file adds the template of the file. -/
theorem changesOnly_compileFile (named : engine.sources.files.IsNamed)
    (lists : engine.store.ListsPaths) (path : String) :
    engine.ChangesOnly (engine.store.MayAdd engine.sources path) (EngineM.compileFile path) := by
  unfold EngineM.compileFile
  exact changesOnly_onStore (Store.loadLocated_changesOnly lists named path none)

/-- An archive that cannot be read changes nothing, and one that can be read changes what it
holds. -/
theorem changesOnly_unarchive (engine : Engine) (text : String) :
    engine.ChangesOnly (fun _ added => ∀ name ∈ added.keys, Json.IsNameIn text name)
      (EngineM.unarchive text) := by
  have run := EngineM.unarchive_run text engine
  cases read : Template.ofArchive? text with
  | none =>
    rw [read] at run
    exact ⟨by rw [run], run ▸ .failure rfl⟩
  | some templates =>
    rw [read] at run
    obtain ⟨entries, rfl, names⟩ := Template.ofArchive?_names read
    exact ⟨by rw [run], run ▸ .answer names (.insertAll engine.store entries)⟩

/-- Calls that fail leave all templates as they are. Of those that do not fail, adding a source
changes the template of the given name. Loading a template and compiling a file add at most one
template, under the given name or under the canonical path of a file, where none was kept before.
Reading an archive changes the templates of names in its text. -/
theorem changes_only_named (engine : Engine) (named : engine.sources.files.IsNamed)
    (lists : engine.store.ListsPaths) :
    (∀ name source, engine.ChangesOnly (fun template added => added = [(name, template)])
      (EngineM.add name source)) ∧
    (∀ name, engine.ChangesOnly (engine.store.MayAdd engine.sources name) (EngineM.load name)) ∧
    (∀ path, engine.ChangesOnly (engine.store.MayAdd engine.sources path)
      (EngineM.compileFile path)) ∧
    ∀ text, engine.ChangesOnly (fun _ added => ∀ name ∈ added.keys, Json.IsNameIn text name)
      (EngineM.unarchive text) :=
  ⟨engine.changesOnly_add, changesOnly_load named lists, changesOnly_compileFile named lists,
    engine.changesOnly_unarchive⟩

/-- A template is loaded from a file, and kept under its path. -/
theorem changes_only_named_website :
    website.sources.files.IsNamed ∧ website.store.ListsPaths ∧
    website.ChangesOnly (website.store.MayAdd website.sources "pages/page")
      (EngineM.load "pages/page") ∧
    ((EngineM.load "pages/page").run website).2.store.templates.keys =
      ["/layouts/base.dust", "/pages/page.dust"] := by
  have named : website.sources.files.IsNamed := by decide +kernel
  have lists : website.store.ListsPaths := fun _ listed => by cases listed
  exact ⟨named, lists, (changes_only_named website named lists).2.1 _, by decide +kernel⟩

/-- Whatever is added, loaded, compiled or read, files stay listed by their paths. -/
theorem listsPaths_after (engine : Engine) (named : engine.sources.files.IsNamed)
    (lists : engine.store.ListsPaths) :
    (∀ name source, ((EngineM.add name source).run engine).2.store.ListsPaths) ∧
    (∀ name, ((EngineM.load name).run engine).2.store.ListsPaths) ∧
    (∀ path, ((EngineM.compileFile path).run engine).2.store.ListsPaths) ∧
    ∀ text, ((EngineM.unarchive text).run engine).2.store.ListsPaths := by
  refine ⟨fun name source => ?_, fun name => ?_, fun path => ?_, fun text => ?_⟩
  · simp only [EngineM.add, EngineM.onStore_run]
    intro index listed
    exact lists index ((Store.add_index engine.sources engine.store name source).symm.trans listed)
  · simp only [EngineM.load, EngineM.loadFrom, EngineM.onStore_run]
    exact lists.of_same named (Store.load_listing engine.sources engine.store name none)
  · simp only [EngineM.compileFile, EngineM.onStore_run]
    exact lists.of_same named (Store.loadLocated_listing engine.sources engine.store path none)
  · rw [EngineM.unarchive_run]
    cases Template.ofArchive? text <;> exact lists

end Engine

end Dust
