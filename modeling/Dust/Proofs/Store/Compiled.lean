import Dust.Proofs.Syntax.Compiled
import Dust.Store.Load

/-!
# Stores of compiled templates

Whatever a store loads has been compiled, so the templates of a store are compiled templates if they
were in the beginning. A template that is not found may be malformed, and is then reported where the
compiler finds the fault, or it may be a file that cannot be read.
-/

namespace Dust

/-- A template that has been compiled, and perhaps been read from a file. -/
def Template.IsCompiled (template : Template) : Prop :=
  ∃ whitespace, Template.compile whitespace template.source = .ok { template with path := none }

/-- A store whose templates have been compiled. -/
structure Store.IsCompiled (store : Store) : Prop where
  /-- The names are in order. -/
  sorted : store.templates.Sorted
  /-- Every template has been compiled. -/
  compiled : ∀ entry ∈ store.templates, entry.2.IsCompiled

namespace Template.IsCompiled

variable {template : Template}

/-- What is compiled is. -/
theorem of_compile {whitespace : Whitespace} {source : String}
    (read : Template.compile whitespace source = .ok template) : template.IsCompiled := by
  have same := compile_source read
  obtain ⟨⟨body, blocks⟩, _, complete⟩ := bind_eq_ok read
  refine ⟨whitespace, ?_⟩
  rw [same, read]
  cases complete
  rfl

/-- A compiled template is one also as the template of a file. -/
theorem ofFile (compiled : template.IsCompiled) (path : Option String) :
    Template.IsCompiled { template with path } :=
  compiled

/-- Whatever is written in a compiled template stands at its place in the source. -/
theorem meets (compiled : template.IsCompiled) :
    template.Meets (writtenIn template.source.toList) := by
  obtain ⟨whitespace, read⟩ := compiled
  obtain ⟨body, keys, blocks⟩ := compile_meets read
  exact ⟨body, keys, blocks⟩

end Template.IsCompiled

namespace Store

variable {sources : Sources} {store : Store}

/-- A template of a compiled store is compiled. -/
theorem IsCompiled.get? (compiled : store.IsCompiled) {name : String} {template : Template}
    (found : store.get? name = some template) : template.IsCompiled :=
  compiled.compiled (name, template) (Dict.mem_of_get? found)

/-- A store stays compiled with one more compiled template. -/
theorem IsCompiled.register (compiled : store.IsCompiled) (name : String) {template : Template}
    (isCompiled : template.IsCompiled) : (store.register name template).IsCompiled where
  sorted := compiled.sorted.insert name template
  compiled entry mem := by
    rcases Dict.mem_insert mem with rfl | old
    · exact isCompiled
    · exact compiled.compiled entry old

/-- An error in finding a template: a malformed source, or a file that cannot be read. -/
inductive LoadFails (whitespace : Whitespace) : Error → Prop where
  /-- A source is malformed. The error tells where the compiler finds the fault. -/
  | malformed {source : String} {located : Located} {template : Option String}
      (fails : Template.compile whitespace source = .error located) :
      LoadFails whitespace
        ⟨.malformed located.fault, template, some ⟨source, located.span⟩⟩
  /-- A file cannot be read. The error does not tell a place. -/
  | unreadable (path : String) (fault : ReadFault) :
      LoadFails whitespace { fault := .unreadable path fault }

/-- A way to find a template ends well: it keeps the store compiled, and what it finds is compiled
or an error in finding a template. -/
structure FindsCompiled {α : Type} (sources : Sources) (isCompiled : α → Prop)
    (found : Except Error α × Store) : Prop where
  /-- The store stays compiled. -/
  store : found.2.IsCompiled
  /-- What is found is compiled. -/
  ok : ∀ answer, found.1 = .ok answer → isCompiled answer
  /-- An error is one in finding a template. -/
  error : ∀ error, found.1 = .error error → LoadFails sources.whitespace error

namespace FindsCompiled

variable {α : Type} {isCompiled : α → Prop}

/-- Something compiled is found. -/
theorem found (compiled : store.IsCompiled) {answer : α} (holds : isCompiled answer) :
    FindsCompiled sources isCompiled (.ok answer, store) where
  store := compiled
  ok _ same := Except.ok.inj same ▸ holds
  error _ same := by cases same

/-- Finding something fails. -/
theorem fails (compiled : store.IsCompiled) {error : Error}
    (fails : LoadFails sources.whitespace error) :
    FindsCompiled sources isCompiled (.error error, store) where
  store := compiled
  ok _ same := by cases same
  error _ same := Except.error.inj same ▸ fails

/-- What is found is something that need not be there. -/
theorem optional {found : Except Error Template × Store}
    (finds : FindsCompiled sources Template.IsCompiled found) :
    FindsCompiled sources (fun found => ∀ template, found = some template → template.IsCompiled)
      (found.1.map some, found.2) := by
  obtain ⟨result, later⟩ := found
  obtain ⟨kept, ok, error⟩ := finds
  cases result with
  | error fault => exact fails kept (error fault rfl)
  | ok template =>
    refine FindsCompiled.found kept fun other same => ?_
    cases same
    exact ok template rfl

end FindsCompiled

/-- A source is compiled, or it is malformed. -/
theorem compileSource_cases (whitespace : Whitespace) (source : String) :
    (∃ template, template.IsCompiled ∧ compileSource whitespace source = .ok template) ∨
      ∃ located, Template.compile whitespace source = .error located ∧
        compileSource whitespace source = .error (Error.ofLocated source located) := by
  unfold compileSource
  cases read : Template.compile whitespace source with
  | error located => exact .inr ⟨located, rfl, rfl⟩
  | ok template => exact .inl ⟨template, .of_compile read, rfl⟩

/-- What is compiled is kept. -/
theorem add_findsCompiled (compiled : store.IsCompiled) (name source : String) :
    FindsCompiled sources Template.IsCompiled (store.add sources name source) := by
  unfold add
  rcases compileSource_cases sources.whitespace source with
    ⟨template, isCompiled, same⟩ | ⟨located, fails, same⟩
  · rw [same]
    exact .found (compiled.register name isCompiled) isCompiled
  · rw [same]
    exact .fails compiled (.malformed fails)

/-- There is no text of a file that cannot be read. -/
theorem readText_fails {path : String} {error : Error}
    (fails : readText sources path = .error error) : LoadFails sources.whitespace error := by
  unfold readText at fails
  split at fails
  · cases fails
    exact .unreadable path .missing
  · split at fails
    · cases fails
      exact .unreadable path .invalidText
    · cases fails

/-- What is read from a file is compiled and kept. -/
theorem loadFile_findsCompiled (compiled : store.IsCompiled) (path : String) :
    FindsCompiled sources Template.IsCompiled (store.loadFile sources path) := by
  unfold loadFile
  cases found : store.get? path with
  | some template => exact .found compiled (compiled.get? found)
  | none =>
    dsimp only
    cases text : readText sources path with
    | error error => exact .fails compiled (readText_fails text)
    | ok source =>
      dsimp only
      rcases compileSource_cases sources.whitespace source with
        ⟨template, isCompiled, same⟩ | ⟨located, fails, same⟩
      · rw [same]
        have ofFile := isCompiled.ofFile (some path)
        exact .found (compiled.register path ofFile) ofFile
      · rw [same]
        exact .fails compiled (.malformed fails)

/-- What is loaded is compiled, if the store is. -/
theorem load_findsCompiled (compiled : store.IsCompiled) (name : String)
    (base : Option FilePath) :
    FindsCompiled sources (fun found => ∀ template, found = some template → template.IsCompiled)
      (store.load sources name base) := by
  unfold load
  cases found : store.get? name with
  | some template =>
    refine .found compiled fun other same => ?_
    cases same
    exact compiled.get? found
  | none =>
    dsimp only
    cases supplied : sources.supplier name with
    | some source => exact (add_findsCompiled compiled name source).optional
    | none =>
      have kept := locate_templates sources store name base
      unfold loadLocated
      rcases run : store.locate sources name base with ⟨path, later⟩
      rw [run] at kept
      have stays : later.IsCompiled :=
        ⟨kept ▸ compiled.sorted, fun entry mem => compiled.compiled entry (kept ▸ mem)⟩
      cases path with
      | none => exact .found stays nofun
      | some path => exact (loadFile_findsCompiled stays path).optional

end Store

end Dust
