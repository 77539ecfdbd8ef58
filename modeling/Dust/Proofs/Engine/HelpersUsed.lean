import Dust.Proofs.Engine.Survey
import Dust.Proofs.Render.Confined
import Dust.Proofs.Render.Ownership
import Dust.Syntax.Equality

/-!
# The helpers that templates use

The search for helpers walks through templates as they are written, and rendering goes through the
same templates as the data ask for. What the walk leaves out are the strings in tags, and files of
one name in several directories. Apart from these it finds all helpers that a render can ask for, so
that a render does not depend on any others.
-/

namespace Dust

/-! ### In one template -/

namespace Part

/-- The parts of a body are its own ones with those nested in them. -/
theorem nestedInBody_eq (body : Body) : nestedInBody body = body.flatMap withNested := by
  induction body with
  | nil => rfl
  | cons part rest induction => rw [nestedInBody, induction, List.flatMap_cons]

/-- The parts of named bodies are those of one body after the other. -/
theorem nestedInBodies_eq (bodies : Dict Body) :
    nestedInBodies bodies = bodies.flatMap fun entry => nestedInBody entry.2 := by
  induction bodies with
  | nil => rfl
  | cons entry rest induction => rw [nestedInBodies, induction, List.flatMap_cons]

/-- A part is among those that are nested in it. -/
theorem mem_withNested (part : Part) : part ∈ part.withNested := by
  cases part <;> simp [withNested]

/-- A part of a body is among its parts. -/
theorem mem_nestedInBody {body : Body} {part : Part} (mem : part ∈ body) :
    part ∈ nestedInBody body := by
  rw [nestedInBody_eq]
  exact List.mem_flatMap.mpr ⟨part, mem, part.mem_withNested⟩

/-- The parts in a body of a part are nested in the part. -/
theorem Nests.nestedInBody_subset {part : Part} {body : Body} (nests : part.Nests body) :
    nestedInBody body ⊆ part.withNested := by
  intro inner mem
  match part with
  | .element head params main bodies span =>
    rcases nests with rfl | rfl | ⟨name, entry⟩
    · cases mem
    · exact List.mem_cons_of_mem _ (List.mem_append_left _ mem)
    · refine List.mem_cons_of_mem _ (List.mem_append_right _ ?_)
      rw [nestedInBodies_eq]
      exact List.mem_flatMap.mpr ⟨(name, body), entry, mem⟩
  | .block name main =>
    obtain rfl : main = some body := nests
    exact List.mem_cons_of_mem _ mem

end Part

/-- A body is in a string of another one, at any depth. -/
def Body.InString (inner outer : Body) : Prop :=
  ∃ body part string, Body.Within body outer ∧ part ∈ body ∧ part.Quotes string ∧
    Body.Within inner string

/-- A body in another one is visited with it, unless it is in a string. -/
theorem Body.Within.visited {inner outer : Body} (within : Body.Within inner outer) :
    Part.nestedInBody inner ⊆ Part.nestedInBody outer ∨ Body.InString inner outer := by
  induction within with
  | self => exact .inl fun _ => id
  | string within mem quotes _ => exact .inr ⟨_, _, _, within, mem, quotes, .self _⟩
  | nested within mem nests induction =>
    rcases induction with visited | ⟨outermost, quoting, string, around, isIn, quotes, inString⟩
    · refine .inl fun other isInner => visited ?_
      rw [Part.nestedInBody_eq]
      exact List.mem_flatMap.mpr ⟨_, mem, nests.nestedInBody_subset isInner⟩
    · exact .inr ⟨outermost, quoting, string, around, isIn, quotes, inString.nested mem nests⟩

/-- What is asked of a part holds of a part that meets a demand. -/
theorem Part.Meets.part {demand : Demand} {part : Part} (meets : part.Meets demand) :
    demand.part part := by
  cases part with
  | text | comment => exact meets
  | reference | element | block | inclusion => exact meets.1

namespace Template

/-- All helpers and templates that a body calls and includes are called and included by a template,
as far as is told without looking into strings. -/
def Lists (template : Template) (body : Body) : Prop :=
  ∀ part ∈ body,
    (∀ name, helperName? part = some name → name ∈ template.helperNames) ∧
    ∀ name, partialName? part = some name → name ∈ template.partialNames

/-- In strings a template calls no helper and includes no template but those that it calls and
includes also outside of strings. -/
def StringsAddNothing (template : Template) : Prop :=
  ∀ body part string inner, template.Holds body → part ∈ body → part.Quotes string →
    Body.Within inner string → template.Lists inner

/-- The names of all included templates are written out. -/
def NamesWritten (template : Template) : Prop :=
  ∀ body, template.Holds body → ∀ target way params span,
    Part.inclusion target way params span ∈ body → ∃ name, target = .static name

/-- Helpers and templates that are called and included outside of strings are found. -/
theorem lists_of_subset {template : Template} {body : Body}
    (visited : ∀ part ∈ body, part ∈ template.allParts) : template.Lists body := by
  refine fun part mem => ⟨fun name isHelper => ?_, fun name isPartial => ?_⟩
  · exact List.mem_eraseDups.mpr (List.mem_filterMap.mpr ⟨part, visited part mem, isHelper⟩)
  · exact List.mem_eraseDups.mpr (List.mem_filterMap.mpr ⟨part, visited part mem, isPartial⟩)

/-- Every body of a template calls and includes what is found in the template. -/
theorem Holds.lists {template : Template} {body : Body} (adds : template.StringsAddNothing)
    (holds : template.Holds body) : template.Lists body := by
  have ofString {outer : Body} (inString : Body.InString body outer)
      (holdsOuter : ∀ inner, Body.Within inner outer → template.Holds inner) :
      template.Lists body := by
    obtain ⟨around, part, string, within, mem, quotes, inner⟩ := inString
    exact adds around part string body (holdsOuter around within) mem quotes inner
  rcases holds with within | ⟨entry, mem, within⟩
  · rcases within.visited with visited | inString
    · exact lists_of_subset fun part isIn =>
        List.mem_append_left _ (visited (Part.mem_nestedInBody isIn))
    · exact ofString inString fun inner within => .inl within
  · rcases within.visited with visited | inString
    · refine lists_of_subset fun part isIn => List.mem_append_right _ ?_
      rw [Part.nestedInBodies_eq]
      exact List.mem_flatMap.mpr ⟨entry, mem, visited (Part.mem_nestedInBody isIn)⟩
    · exact ofString inString fun inner within => .inr ⟨entry, mem, within⟩

/-- No helper is called and no template is included. -/
def callsNothing : Demand where
  part part := helperName? part = none ∧ partialName? part = none

/-- Strings call no helpers and include no templates. -/
def quietStrings : Demand where
  part part := ∀ string, part.Quotes string → Part.AllMeet callsNothing string

/-- Names of templates are no strings. -/
def writtenNames : Demand where
  part part := ∀ body way params span, part ≠ .inclusion (.dynamic body) way params span

/-- A template without names that are strings writes out all names. -/
theorem Meets.namesWritten {template : Template} (meets : template.Meets writtenNames) :
    template.NamesWritten := by
  intro body holds target way params span mem
  have named := (Part.allMeet_iff.mp (holds.meets meets) _ mem).part
  cases target with
  | static name => exact ⟨name, rfl⟩
  | dynamic body => exact absurd rfl (named body way params span)

/-- Strings that call and include nothing add nothing. -/
theorem Meets.stringsAddNothing {template : Template} (meets : template.Meets quietStrings) :
    template.StringsAddNothing := by
  intro body part string inner holds mem quotes within other isIn
  have quiet := (Part.allMeet_iff.mp (holds.meets meets) part mem).part string quotes
  obtain ⟨noHelper, noPartial⟩ := (Part.allMeet_iff.mp (within.meets quiet) other isIn).part
  exact ⟨fun name isHelper => by simp [noHelper] at isHelper,
    fun name isPartial => by simp [noPartial] at isPartial⟩

end Template

/-! ### In all templates that are rendered -/

/-- A site enters another one also where fewer templates may be loaded, if those that its tags
include may be. -/
theorem Site.Enters.restrict {maxDepth : Nat} {loads fewer : Loads} {site next : Site}
    (enters : site.Enters maxDepth loads next)
    (included : ∀ target way params span name template,
      Part.inclusion target way params span ∈ site.body → target.MayName name →
        loads name site.origin.template.directory? template →
          fewer name site.origin.template.directory? template) :
    site.Enters maxDepth fewer next := by
  cases enters with
  | string mem quotes => exact .string mem quotes
  | nested frames mem nests plain => exact .nested frames mem nests plain
  | override mem found => exact .override mem found
  | included frames mem shallow named loaded plain =>
    exact .included frames mem shallow named (included _ _ _ _ _ _ mem named loaded) plain

namespace Store

variable {sources : Sources} {store : Store}

/-- The templates that are loaded by names that are asked for, where names are all that counts. -/
def LoadsAskedNames (sources : Sources) (store : Store) (starts : List String) : Loads :=
  fun name _ template =>
    (∃ base, store.Asks sources starts name base) ∧ store.get? name = some template

/-- Without files, whatever may be loaded is kept under its name. -/
theorem IsClosed.get?_of_loadable (closed : store.IsClosed sources) {name : String}
    {base : Option FilePath} {template : Template}
    (loadable : store.Loadable sources name base template) : store.get? name = some template := by
  obtain ⟨later, evolves, loaded⟩ := loadable
  obtain ⟨stays, same⟩ := closed.evolves evolves
  rw [stays.load, get?, same] at loaded
  exact Except.ok.inj loaded

variable {start : Template} {name : String}

/-- A template that is rendered is included from the name that the render starts with. -/
theorem IsClosed.includes (closed : store.IsClosed sources)
    (registered : store.get? name = some start)
    {template : Template}
    (known : Site.Knows (store.LoadsAskedNames sources [name]) start template) :
    store.Includes sources [name] template := by
  rcases known with rfl | ⟨inner, _, ⟨base, asks⟩, found⟩
  · refine ⟨name, none, .start List.mem_cons_self, ?_⟩
    rw [closed.load, registered]
  · exact ⟨inner, base, asks, by rw [closed.load, found]⟩

/-- Without files, a render loads no templates but those by names that the walk asks for. -/
theorem IsClosed.reaches (closed : store.IsClosed sources)
    (registered : store.get? name = some start)
    (written : ∀ template, store.Includes sources [name] template →
      template.NamesWritten ∧ template.StringsAddNothing)
    {maxDepth : Nat} {site : Site}
    (reached : start.site.Reaches maxDepth (store.Loadable sources) site) :
    start.site.Reaches maxDepth (store.LoadsAskedNames sources [name]) site := by
  induction reached with
  | refl => exact .refl
  | @tail site next _ enters induction =>
    obtain ⟨⟨owner, isWritten⟩, -⟩ := Site.Reaches.exists_isWrittenIn induction
    have includes := closed.includes registered isWritten.known
    obtain ⟨names, adds⟩ := written owner includes
    refine induction.tail (enters.restrict fun target way params span inner template mem named
      loaded => ⟨?_, closed.get?_of_loadable loaded⟩)
    obtain ⟨static, rfl⟩ := names site.body isWritten.holds target way params span mem
    obtain rfl : inner = static := named
    obtain ⟨asked, base, asks, found⟩ := includes
    exact ⟨_, .included asks found ((isWritten.holds.lists adds _ mem).2 inner rfl)⟩

end Store

/-- What an engine answers to a render, and what it keeps. -/
theorem EngineM.renderOutput_run_eq (engine : Engine) (template : Template) (input : RenderInput) :
    (renderOutput template input).run engine =
      let run := ((engine.renderer input).renderTemplate engine.bound template).runFrom
        (engine.startState input)
      (answerTo run, { engine with store := run.2.store, reports := run.2.reports }) := by
  let render := onRender input.data.withFiniteFloats
    ((engine.renderer input).renderTemplate engine.bound template)
  change (match render.run engine with
    | (result, later) => (ExceptT.bindCont (fun answer : Unit × Output => pure answer.2)
      result : StateM Engine (Except Failure Output)) later) = _
  rw [onRender_run, Engine.startState]
  rcases ((engine.renderer input).renderTemplate engine.bound template).runFrom _ with
    ⟨result, later⟩
  cases result <;> rfl

/-- The helpers that are found are all that a render can ask for: those that are called in any site
that is reached from the template, so that the render does not depend on other helpers. No template
may be loaded from elsewhere, all included templates are named, and strings hold no calls and no
inclusions that do not stand outside of strings too. -/
theorem EngineM.helpersUsed_sound (engine : Engine) (name : String) (template : Template)
    (closed : engine.store.IsClosed engine.sources) (registered : engine.get? name = some template)
    (confined : Helper.AllConfined engine.helpers)
    (written : ∀ included, engine.store.Includes engine.sources [name] included →
      included.NamesWritten ∧ included.StringsAddNothing) :
    ∃ least, ∀ bound, least ≤ bound → ∃ names,
      ((helpersUsed name).run { engine with bound }).1 = .ok names ∧
      (∀ maxDepth site,
        template.site.Reaches maxDepth (engine.store.Loadable engine.sources) site →
        ∀ part ∈ site.body, ∀ helper, Template.helperName? part = some helper →
          helper ∈ names) ∧
      ∀ input limit helpers,
        (∀ helper ∈ names, Dict.get? helpers helper = engine.helpers.get? helper) →
        (renderOutput template input).run { engine with bound := limit, helpers } =
          let run := (renderOutput template input).run { engine with bound := limit }
          (run.1, { run.2 with helpers }) := by
  have settled := closed.isSettled
  have loads : engine.store.LoadsAsked engine.sources [name] :=
    fun asked base _ => ⟨_, closed.load asked base⟩
  have alike : engine.store.AsksAlike engine.sources [name] := by
    intro asked base other _ _
    rw [closed.load, closed.load]
  refine ⟨(Store.askable [name] engine.store.templates.values).length + 1, fun bound enough => ?_⟩
  obtain ⟨names, later, run, -, -, complete⟩ :=
    @EngineM.visitAll_run { engine with bound } _ _ _ _ settled loads
      (Engine.gathers_helperNames _) enough
  have called (maxDepth : Nat) (site : Site)
      (reached : template.site.Reaches maxDepth (engine.store.Loadable engine.sources) site)
      (part : Part) (mem : part ∈ site.body) (helper : String)
      (isHelper : Template.helperName? part = some helper) : helper ∈ names := by
    have asked := closed.reaches registered written reached
    obtain ⟨⟨owner, isWritten⟩, -⟩ := Site.Reaches.exists_isWrittenIn asked
    have includes := closed.includes registered isWritten.known
    obtain ⟨-, adds⟩ := written owner includes
    exact complete alike owner includes ((isWritten.holds.lists adds part mem).1 helper isHelper)
  refine ⟨names, congrArg Prod.fst run, called, fun input limit helpers same => ?_⟩
  have runsAlike := @Renderer.renderBody_withHelpers (engine.renderer input) engine.store confined
    template.site helpers
    (fun site reached part mem helper isHelper =>
      same helper (called _ site reached part mem helper isHelper)) limit
  obtain ⟨equal, -⟩ := runsAlike (engine.startState input) .refl
  have ofHelpers := renderOutput_run_eq { engine with bound := limit, helpers } template input
  have ofEngine := renderOutput_run_eq { engine with bound := limit } template input
  rw [ofHelpers, ofEngine]
  dsimp only
  have same : (({ engine with bound := limit, helpers }.renderer input).renderTemplate limit
      template).runFrom (engine.startState input) =
      (({ engine with bound := limit }.renderer input).renderTemplate limit template).runFrom
        (engine.startState input) := equal.symm
  exact congrArg (fun run : Except Halt Unit × RenderState => (answerTo run,
    { engine with bound := limit, helpers, store := run.2.store, reports := run.2.reports })) same

/-- An engine without files that knows some templates. -/
def engineOf (templates : Dict Template) : Engine where
  sources := { files := ⟨.directory [], []⟩ }
  store := { templates }

/-- There are no templates to be had beyond those that are known. -/
theorem isClosed_engineOf (templates : Dict Template) :
    (engineOf templates).store.IsClosed (engineOf templates).sources := by
  refine ⟨⟨fun _ => rfl, fun path => ?_⟩, rfl⟩
  unfold FileTree.read?
  cases (engineOf templates).sources.files.canonical? path with
  | none => rfl
  | some names => cases names <;> rfl

/-- The template of this source calls a helper, and looks up a value in a string. -/
def frame : Template where
  source := "\x7b>side/\x7d\x7b@if cond=\"\x7bx\x7d\"\x7dy\x7b/if\x7d"
  body :=
    [.inclusion (.static "side") none [] ⟨0, 8⟩,
      .element (.helper ⟨"if", ⟨10, 12⟩⟩)
        [⟨⟨"cond", ⟨13, 17⟩⟩,
          .interpolated [.reference ⟨.relative, [.name "x"], ⟨20, 21⟩⟩ [] ⟨19, 22⟩]⟩]
        (some [.text "y"]) [] ⟨8, 30⟩]
  blocks := []
  path := none

/-- The template of this source calls another helper. -/
def side : Template where
  source := "{@size key=x/}"
  body :=
    [.element (.helper ⟨"size", ⟨2, 6⟩⟩)
      [⟨⟨"key", ⟨7, 10⟩⟩, .path ⟨.relative, [.name "x"], ⟨11, 12⟩⟩⟩] none [] ⟨0, 14⟩]
  blocks := []
  path := none

/-- The template of this source calls a helper in a string. -/
def quoting : Template where
  source := "\x7b@if cond=\"\x7b@size key=x/\x7d\"\x7dy\x7b/if\x7d"
  body :=
    [.element (.helper ⟨"if", ⟨2, 4⟩⟩)
      [⟨⟨"cond", ⟨5, 9⟩⟩, .interpolated
        [.element (.helper ⟨"size", ⟨13, 17⟩⟩)
          [⟨⟨"key", ⟨18, 21⟩⟩, .path ⟨.relative, [.name "x"], ⟨22, 23⟩⟩⟩] none [] ⟨11, 25⟩]⟩]
      (some [.text "y"]) [] ⟨0, 33⟩]
  blocks := []
  path := none

example : [frame, side, quoting].all (fun template =>
    (Template.compile .preserve template.source).toOption == some template) = true := by
  decide +kernel

/-- The helpers of both templates are found, and rendering asks for no others. -/
theorem EngineM.helpersUsed_sound_frame :
    (engineOf [("frame", frame), ("side", side)]).store.IsClosed
      (engineOf [("frame", frame), ("side", side)]).sources ∧
    Helper.AllConfined Helper.builtins ∧
    (∀ template ∈ [frame, side],
      template.Meets Template.writtenNames ∧ template.Meets Template.quietStrings) ∧
    ∃ least, ∀ bound, least ≤ bound → ∃ names,
      ((helpersUsed "frame").run
        { engineOf [("frame", frame), ("side", side)] with bound }).1 = .ok names ∧
      (∀ maxDepth site,
        frame.site.Reaches maxDepth ((engineOf [("frame", frame), ("side", side)]).store.Loadable
          (engineOf [("frame", frame), ("side", side)]).sources) site →
        ∀ part ∈ site.body, ∀ helper, Template.helperName? part = some helper →
          helper ∈ names) ∧
      ∀ input limit helpers,
        (∀ helper ∈ names, Dict.get? helpers helper = Helper.builtins.get? helper) →
        (renderOutput frame input).run
            { engineOf [("frame", frame), ("side", side)] with bound := limit, helpers } =
          let run := (renderOutput frame input).run
            { engineOf [("frame", frame), ("side", side)] with bound := limit }
          (run.1, { run.2 with helpers }) := by
  let engine := engineOf [("frame", frame), ("side", side)]
  have closed : engine.store.IsClosed engine.sources := isClosed_engineOf _
  have meets : ∀ template ∈ [frame, side],
      template.Meets Template.writtenNames ∧ template.Meets Template.quietStrings := by
    simp [Template.meets_iff, frame, side, Template.writtenNames, Template.quietStrings,
      Template.callsNothing, Part.AllMeet, Part.Meets, Part.ParamsMeet, Part.MainMeets,
      Part.BodiesMeet, Param.Meets, Argument.Meets, Path.Meets, Path.KeysMeet, Key.Meets,
      Head.Meets, Target.Meets, Part.Quotes, Quoted, Template.helperName?, Template.partialName?]
  have written (included : Template)
      (includes : engine.store.Includes engine.sources ["frame"] included) :
      included.NamesWritten ∧ included.StringsAddNothing := by
    obtain ⟨_, _, -, loaded⟩ := includes
    have known : included ∈ [frame, side] := closed.isSettled.known _ _ _ loaded
    obtain ⟨names, strings⟩ := meets included known
    exact ⟨names.namesWritten, strings.stringsAddNothing⟩
  exact ⟨closed, Helper.allConfined_builtins, meets,
    EngineM.helpersUsed_sound engine "frame" frame closed rfl Helper.allConfined_builtins written⟩

/-- A helper that is called in a string is missed, and the render depends on it. -/
theorem EngineM.helpersUsed_misses_string :
    ¬ ∀ (engine : Engine) (name : String) (template : Template) (names : List String)
      (input : RenderInput) (helpers : Dict Helper),
      engine.store.IsClosed engine.sources → engine.get? name = some template →
      Helper.AllConfined engine.helpers →
      (∀ included, engine.store.Includes engine.sources [name] included →
        included.NamesWritten) →
      ((helpersUsed name).run engine).1 = .ok names →
      (∀ helper ∈ names, helpers.get? helper = engine.helpers.get? helper) →
      ((renderOutput template input).run { engine with helpers }).1 =
        ((renderOutput template input).run engine).1 := by
  intro always
  let engine := engineOf [("quoting", quoting)]
  let input : RenderInput := { data := .map [("x", .string "text")] }
  let fewer := Helper.builtins.erase "size"
  have closed : engine.store.IsClosed engine.sources := isClosed_engineOf _
  have written (included : Template)
      (includes : engine.store.Includes engine.sources ["quoting"] included) :
      included.NamesWritten := by
    obtain ⟨_, _, -, loaded⟩ := includes
    have known : included ∈ [quoting] := closed.isSettled.known _ _ _ loaded
    have names : quoting.Meets Template.writtenNames := by
      simp [Template.meets_iff, quoting, Template.writtenNames, Part.AllMeet, Part.Meets,
        Part.ParamsMeet, Part.MainMeets, Part.BodiesMeet, Param.Meets, Argument.Meets, Path.Meets,
        Path.KeysMeet, Key.Meets, Head.Meets]
    rw [List.mem_singleton.mp known]
    exact names.namesWritten
  have found : ((helpersUsed "quoting").run engine).1 = .ok ["if"] :=
    Except.eq_ok_of_toOption (by decide +kernel)
  have same := always engine "quoting" quoting ["if"] input fewer closed rfl
    Helper.allConfined_builtins written found
    (fun helper mem => Dict.get?_erase_of_ne _ (by rw [List.mem_singleton.mp mem]; decide))
  have whole : ((renderOutput quoting input).run engine).1.toOption.map (·.error.isSome) =
      some false := by
    decide +kernel
  have lacking : ((renderOutput quoting input).run
      { engine with helpers := fewer }).1.toOption.map (·.error.isSome) = some true := by
    decide +kernel
  rw [same, whole] at lacking
  cases lacking

/-! ### Along inclusions -/

/-- The helpers that are found are those of all templates that are included, step by step, from a
name, where each name is tried from the directory of the template in which it stands. No name may
lead to different templates from different directories. -/
theorem EngineM.helpersUsed_follows_includes (engine : Engine) (name : String)
    (supplier : ∀ name, engine.sources.supplier name = none)
    (named : engine.sources.files.IsNamed) (lists : engine.store.ListsFiles engine.sources)
    (loads : engine.store.LoadsAsked engine.sources [name])
    (alike : engine.store.AsksAlike engine.sources [name]) :
    ∃ least, ∀ bound, least ≤ bound → ∃ names,
      ((helpersUsed name).run { engine with bound }).1 = .ok names ∧
      ∀ helper, helper ∈ names ↔
        ∃ template, engine.store.Includes engine.sources [name] template ∧
          helper ∈ template.helperNames := by
  have settled := Store.isSettled_of_files supplier named lists
  let templates := engine.store.allTemplates engine.sources
  refine ⟨(Store.askable [name] templates).length + 1, fun bound enough => ?_⟩
  obtain ⟨found, later, run, -, sound, complete⟩ :=
    @EngineM.visitAll_run { engine with bound } _ _ _ _ settled loads
      (Engine.gathers_helperNames _) enough
  refine ⟨found, congrArg Prod.fst run, fun helper => ⟨sound helper, ?_⟩⟩
  rintro ⟨template, includes, mem⟩
  exact complete alike template includes mem

/-- An engine with files under the root directory. -/
def FileNode.engine (root : FileNode) : Engine where
  sources := { files := ⟨root, []⟩ }

/-- Two templates that include each other by names that are tried from their directory. -/
def circle : FileNode :=
  .directory [("pages", .directory
    [("head.dust", .file "{@size key=x/}{>page/}".toUTF8), ("page.dust", .file "{>head/}".toUTF8)])]

/-- The helper of a template that another one in the same directory includes is found. -/
theorem EngineM.helpersUsed_follows_includes_circle :
    circle.engine.sources.files.IsNamed ∧
    circle.engine.store.LoadsAsked circle.engine.sources ["pages/page"] ∧
    circle.engine.store.AsksAlike circle.engine.sources ["pages/page"] ∧
    ∃ least, ∀ bound, least ≤ bound → ∃ names,
      ((helpersUsed "pages/page").run { circle.engine with bound }).1 = .ok names ∧
      ∀ helper, helper ∈ names ↔
        ∃ template, circle.engine.store.Includes circle.engine.sources ["pages/page"] template ∧
          helper ∈ template.helperNames := by
  have named : circle.engine.sources.files.IsNamed := by decide
  let questions : List (String × Option FilePath) :=
    [("pages/page", none), ("head", some ⟨true, ["pages"]⟩), ("page", some ⟨true, ["pages"]⟩)]
  have closed : circle.engine.store.isClosed circle.engine.sources questions = true := by
    decide +kernel
  have begins : ∀ name ∈ ["pages/page"], (name, none) ∈ questions := by decide
  have single : ∀ question ∈ questions, ∀ other ∈ questions,
      question.1 = other.1 → question.2 = other.2 := by decide
  have loads := Store.loadsAsked_of_isClosed closed begins
  have alike : circle.engine.store.AsksAlike circle.engine.sources ["pages/page"] := by
    intro name base other asks asksOther
    have same : base = other := single _ (asks.mem_of_isClosed closed begins) _
      (asksOther.mem_of_isClosed closed begins) rfl
    rw [same]
  exact ⟨named, loads, alike, EngineM.helpersUsed_follows_includes circle.engine "pages/page"
    (fun _ => rfl) named nofun loads alike⟩

/-- Two directories with templates of the same names, of which one calls another helper. -/
def twins : FileNode :=
  .directory
    [("a", .directory
      [("side.dust", .file "{@size key=1/}".toUTF8), ("x.dust", .file "{>side/}".toUTF8)]),
     ("b", .directory
      [("side.dust", .file "{@math key=1 add=1/}".toUTF8), ("x.dust", .file "{>side/}".toUTF8)]),
     ("page.dust", .file "\x7b>\"a/x\"/\x7d\x7b>\"b/x\"/\x7d".toUTF8)]

/-- The helper of a template is missed if a template of the same name has been visited in another
directory. -/
theorem EngineM.helpersUsed_misses_twin :
    ¬ ∀ (engine : Engine) (name : String) (names : List String) (template : Template),
      (∀ name, engine.sources.supplier name = none) → engine.sources.files.IsNamed →
      engine.store.ListsFiles engine.sources →
      engine.store.LoadsAsked engine.sources [name] →
      ((helpersUsed name).run engine).1 = .ok names →
      engine.store.Includes engine.sources [name] template → template.helperNames ⊆ names := by
  intro always
  let store := twins.engine.store
  let sources := twins.engine.sources
  let b : Option FilePath := some ⟨true, ["b"]⟩
  let questions : List (String × Option FilePath) :=
    [("page", none), ("a/x", some ⟨true, []⟩), ("b/x", some ⟨true, []⟩),
      ("side", some ⟨true, ["a"]⟩), ("side", b)]
  have closed : store.isClosed sources questions = true := by decide +kernel
  have begins : ∀ name ∈ ["page"], (name, none) ∈ questions := by decide
  have loads := Store.loadsAsked_of_isClosed closed begins
  have found : ((helpersUsed "page").run twins.engine).1 = .ok ["size"] :=
    Except.eq_ok_of_toOption (by decide +kernel)
  have leads (name : String) (base : Option FilePath) (partials helpers : List String)
      (directory : Option FilePath)
      (answer : (store.load sources name base).1.toOption.join.map (fun template =>
        (template.partialNames, template.helperNames, template.directory?)) =
          some (partials, helpers, directory)) :
      ∃ template, (store.load sources name base).1 = .ok (some template) ∧
        template.partialNames = partials ∧ template.helperNames = helpers ∧
        template.directory? = directory := by
    obtain ⟨template, loaded, same⟩ := Option.map_eq_some_iff.mp answer
    cases same
    exact ⟨template, Except.eq_ok_of_toOption (Option.join_eq_some_iff.mp loaded), rfl, rfl, rfl⟩
  obtain ⟨page, pageLoaded, pagePartials, -, root⟩ :=
    leads "page" none ["a/x", "b/x"] [] (some ⟨true, []⟩) (by decide +kernel)
  obtain ⟨x, xLoaded, xPartials, -, directory⟩ :=
    leads "b/x" (some ⟨true, []⟩) ["side"] [] b (by decide +kernel)
  obtain ⟨side, sideLoaded, -, sideHelpers, -⟩ :=
    leads "side" b [] ["math"] b (by decide +kernel)
  have asksX : store.Asks sources ["page"] "b/x" (some ⟨true, []⟩) :=
    root ▸ .included (.start (by simp)) pageLoaded (by simp [pagePartials])
  have asksSide : store.Asks sources ["page"] "side" b :=
    directory ▸ .included asksX xLoaded (by simp [xPartials])
  have contained := always twins.engine "page" ["size"] side (fun _ => rfl) (by decide) nofun loads
    found ⟨"side", b, asksSide, sideLoaded⟩
  rw [sideHelpers] at contained
  exact absurd contained (by decide)

end Dust
