import Dust.Store.Locator
import Dust.Syntax.Compile

/-!
# Loading templates

A template that is not in the store is asked of the supplier and then looked for as a file. It is
compiled and kept: what is supplied under its name, and what is read under the path of its file.
Nothing is kept of a template that cannot be read or compiled.
-/

namespace Dust

/-- Compiles a source. -/
def compileSource (whitespace : Whitespace) (source : String) : Except Error Template :=
  (Template.compile whitespace source).mapError (Error.ofLocated source)

namespace Store

/-- The template of a name. -/
def get? (store : Store) (name : String) : Option Template :=
  store.templates.get? name

/-- Keeps a template under a name, in place of the one it had. -/
def register (store : Store) (name : String) (template : Template) : Store :=
  { store with templates := store.templates.insert name template }

/-- Compiles a source and keeps the template under a name. -/
def add (sources : Sources) (store : Store) (name source : String) :
    Except Error Template × Store :=
  match compileSource sources.whitespace source with
  | .error error => (.error (error.inTemplate name), store)
  | .ok template => (.ok template, store.register name template)

/-- The text of a file. -/
def readText (sources : Sources) (path : String) : Except Error String :=
  match sources.files.read? (FilePath.ofString path) with
  | none => .error { fault := .unreadable path .missing }
  | some bytes =>
    match String.fromUTF8? bytes with
    | none => .error { fault := .unreadable path .invalidText }
    | some text => .ok text

/-- The template of a file, which is compiled once. -/
def loadFile (sources : Sources) (store : Store) (path : String) :
    Except Error Template × Store :=
  match store.get? path with
  | some template => (.ok template, store)
  | none =>
    match readText sources path with
    | .error error => (.error error, store)
    | .ok source =>
      match compileSource sources.whitespace source with
      | .error error => (.error (error.inTemplate path), store)
      | .ok template =>
        let template := { template with path := some path }
        (.ok template, store.register path template)

/-- The template of the file that a name leads to, if there is one. -/
def loadLocated (sources : Sources) (store : Store) (name : String) (base : Option FilePath) :
    Except Error (Option Template) × Store :=
  match store.locate sources name base with
  | (none, store) => (.ok none, store)
  | (some path, store) =>
    let (template, store) := store.loadFile sources path
    (template.map some, store)

/-- The template of a name, if there is one. Files are tried from the given directory first. -/
def load (sources : Sources) (store : Store) (name : String) (base : Option FilePath) :
    Except Error (Option Template) × Store :=
  match store.get? name with
  | some template => (.ok (some template), store)
  | none =>
    match sources.supplier name with
    | some source =>
      let (template, store) := store.add sources name source
      (template.map some, store)
    | none => store.loadLocated sources name base

end Store

end Dust
