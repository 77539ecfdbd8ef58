import Dust.Proofs.Engine.Prerun
import Dust.Proofs.Syntax.RoundTrip

/-!
# Filters in a row

The automatic filters are what a reference goes on with when its own filters are applied. So to
write them out at the end of the reference changes nothing, since a filter that is written is not
applied once more by itself. The filter `s` only tells that they are to be kept away, so it does not
matter where it stands and how often.
-/

namespace Dust

/-! ### Chains -/

namespace FilterSet

variable (filters : FilterSet)

/-- Two chains in a row are applied one after the other. -/
theorem applyChain_append (front back : List String) (value : Value) :
    filters.applyChain (front ++ back) value =
      filters.applyChain back (filters.applyChain front value) :=
  List.foldl_append

/-- The filter that keeps others away does nothing itself. -/
theorem applyChain_filter (chain : List String) (value : Value) :
    filters.applyChain (chain.filter (· ≠ Filter.suppressing)) value =
      filters.applyChain chain value := by
  induction chain generalizing value with
  | nil => rfl
  | cons name rest induction =>
    by_cases suppresses : name = Filter.suppressing
    · have dropped : (name :: rest).filter (· ≠ Filter.suppressing) =
          rest.filter (· ≠ Filter.suppressing) := by simp [suppresses]
      rw [dropped, induction, applyChain, applyChain, List.foldl_cons, if_pos suppresses]
    · have kept : (name :: rest).filter (· ≠ Filter.suppressing) =
          name :: rest.filter (· ≠ Filter.suppressing) := by simp [suppresses]
      rw [kept, applyChain, List.foldl_cons, ← applyChain, induction, applyChain, applyChain,
        List.foldl_cons]

variable {filters} {chain : List String}

/-- A chain can keep the automatic filters away. -/
theorem applyAutomatic_of_suppressing (suppresses : Filter.suppressing ∈ chain) (value : Value) :
    filters.applyAutomatic chain value = value := by
  rw [applyAutomatic, if_pos (List.contains_iff_mem.mpr suppresses)]

/-- Automatic filters that a chain does not name are applied as a chain of their own. -/
theorem applyAutomatic_of_apart (applies : Filter.suppressing ∉ chain)
    (unsuppressing : Filter.suppressing ∉ filters.automatic)
    (apart : ∀ name ∈ filters.automatic, name ∉ chain) (value : Value) :
    filters.applyAutomatic chain value = filters.applyChain filters.automatic value := by
  rw [applyAutomatic, if_neg (mt List.contains_iff_mem.mp applies), applyChain]
  refine List.foldl_ext _ _ _ fun value name mem => ?_
  have other : name ≠ Filter.suppressing := fun same => unsuppressing (same ▸ mem)
  rw [if_neg (mt List.contains_iff_mem.mp (apart name mem)), if_neg other]

/-- Automatic filters that a chain names are not applied again. -/
theorem applyAutomatic_of_named (named : ∀ name ∈ filters.automatic, name ∈ chain)
    (value : Value) : filters.applyAutomatic chain value = value := by
  rw [applyAutomatic]
  split
  · rfl
  · rw [List.foldl_ext _ (fun value _ => value) value fun value name mem =>
      if_pos (List.contains_iff_mem.mpr (named name mem))]
    exact List.foldl_fixed _

/-- The first name of a chain that no filter has. -/
def unknownName? (filters : FilterSet) (chain : List String) : Option String :=
  chain.find? fun name => name ≠ Filter.suppressing && !filters.known.has name

/-- A name of the first chain is found first. -/
theorem unknownName?_append (front back : List String) :
    filters.unknownName? (front ++ back) =
      (filters.unknownName? front).or (filters.unknownName? back) :=
  List.find?_append

/-- Which filter of a chain is not known depends on the names. -/
theorem map_name_unknown? (chain : List Identifier) :
    (filters.unknown? chain).map Identifier.name =
      filters.unknownName? (chain.map Identifier.name) := by
  rw [unknownName?, List.find?_map]
  rfl

/-- Two chains make the same of every value, and the same name is the first one that no filter
has. -/
structure Agree (filters : FilterSet) (chain other : List String) : Prop where
  /-- Values become the same. -/
  apply : ∀ value, filters.apply chain value = filters.apply other value
  /-- The same name is not known. -/
  unknown : filters.unknownName? chain = filters.unknownName? other

/-- Automatic filters can be written out behind a chain that names none of them. -/
theorem agree_append_automatic (applies : Filter.suppressing ∉ chain)
    (unsuppressing : Filter.suppressing ∉ filters.automatic)
    (apart : ∀ name ∈ filters.automatic, name ∉ chain)
    (registered : ∀ name ∈ filters.automatic, filters.known.has name = true) :
    filters.Agree chain (chain ++ filters.automatic) where
  apply value := by
    have named : ∀ name ∈ filters.automatic, name ∈ chain ++ filters.automatic :=
      fun _ mem => List.mem_append_right _ mem
    rw [apply, apply, applyAutomatic_of_apart applies unsuppressing apart,
      applyAutomatic_of_named named, applyChain_append]
  unknown := by
    have allKnown : filters.unknownName? filters.automatic = none :=
      List.find?_eq_none.mpr fun name mem => by simp [registered name mem]
    rw [unknownName?_append, allKnown, Option.or_none]

/-- How often and where the automatic filters are kept away does not matter. -/
theorem agree_of_suppressing {other : List String} (suppresses : Filter.suppressing ∈ chain)
    (suppresses' : Filter.suppressing ∈ other)
    (same : chain.filter (· ≠ Filter.suppressing) = other.filter (· ≠ Filter.suppressing)) :
    filters.Agree chain other where
  apply value := by
    rw [apply, apply, applyAutomatic_of_suppressing suppresses,
      applyAutomatic_of_suppressing suppresses', ← applyChain_filter, same, applyChain_filter]
  unknown := by
    have found (names : List String) : filters.unknownName? names =
        (names.filter (· ≠ Filter.suppressing)).find? (!filters.known.has ·) := by
      rw [List.find?_filter, unknownName?]
      congr 1
      funext name
      simp
    rw [found, found, same]

end FilterSet

/-! ### References -/

namespace Context

variable (context : Context) (scope : Scope)

mutual

/-- Where a path is written does not matter for what it leads to. -/
theorem get?_unplaced : ∀ path : Path, context.get? scope path.unplaced = context.get? scope path
  | ⟨_, [], _⟩ => rfl
  | ⟨_, first :: rest, _⟩ => by
    rw [Path.unplaced, Path.unplacedKeys]
    simp only [get?, toStep?_unplaced first, followKeys?_unplaced rest]

/-- Where a key is written does not matter for the step that it is. -/
theorem toStep?_unplaced : ∀ key : Key,
    context.toStep? scope key.unplaced = context.toStep? scope key
  | .name _ | .index _ => rfl
  | .path path => by rw [Key.unplaced, toStep?, toStep?, get?_unplaced path]

/-- Where keys are written does not matter for what they lead to. -/
theorem followKeys?_unplaced : ∀ (keys : List Key) (value : Value),
    context.followKeys? scope value (Path.unplacedKeys keys) =
      context.followKeys? scope value keys
  | [], _ => rfl
  | key :: rest, value => by
    rw [Path.unplacedKeys]
    simp only [followKeys?, toStep?_unplaced key, followKeys?_unplaced rest]

end

end Context

/-- The text of an output and the message of its error. -/
def Output.shown (output : Output) : String × Option String :=
  (output.text, output.error.map Error.message)

namespace Renderer

variable {renderer : Renderer}

/-- What a reference shows depends on what its chain makes of values, and on the name that is not
known. -/
theorem shown_referenceOutput {chain other : List Identifier}
    (agree : renderer.filters.Agree (chain.map Identifier.name) (other.map Identifier.name))
    (origin otherOrigin : Origin) (value : Option Value) :
    (renderer.referenceOutput origin chain value).shown =
      (renderer.referenceOutput otherOrigin other value).shown := by
  cases value with
  | none => rfl
  | some value =>
    have messages (origin : Origin) (chain : List Identifier) :
        (renderer.referenceOutput origin chain (some value)).error.map Error.message =
          (renderer.filters.unknownName? (chain.map Identifier.name)).map fun name =>
            (RenderFault.unknownFilter name).message := by
      rw [← FilterSet.map_name_unknown?, referenceOutput, Option.map_map, Option.map_map]
      rfl
    refine Prod.ext ?_ ?_
    · simp only [Output.shown, referenceOutput, agree.apply]
    · simp only [Output.shown, messages, agree.unknown]

end Renderer

/-! ### Templates of one reference -/

/-- A reference to a path with filters of some names. -/
def Part.filtered (path : Path) (chain : List String) : Part :=
  .reference path (chain.map fun name => ⟨name, default⟩) default

/-- The source of a template that is a reference. -/
def filteredSource (path : Path) (chain : List String) : String :=
  String.ofList (Part.filtered path chain).written

/-- A template that is a reference to a path, wherever that is written, with filters of some
names. -/
def Template.IsFiltered (path : Path) (chain : List String) (template : Template) : Prop :=
  ∃ placed filters span, template.body = [.reference placed filters span] ∧
    placed.unplaced = path.unplaced ∧ filters.map Identifier.name = chain ∧ template.blocks = []

/-- A reference is compiled from its source, if its path can be written and its filters have names
that are words. -/
theorem compile_filteredSource {path : Path} {chain : List String}
    (writable : path.isWritable = true) (words : ∀ name ∈ chain, isWord name = true) :
    ∃ template, Template.compile .preserve (filteredSource path chain) = .ok template ∧
      template.IsFiltered path chain := by
  let tree : Template := ⟨"", [Part.filtered path chain], [], none⟩
  have written : tree.written = (Part.filtered path chain).written := by
    simp [tree, Template.written, Part.writtenBody]
  have canBeWritten : tree.isWritable = true := by
    have names : (chain.map fun name => (⟨name, default⟩ : Identifier)).all (isWord ·.name) =
        true := by simpa using words
    simp [tree, Template.isWritable, Part.areWritable, Part.filtered, Part.isWritable,
      Part.isWritableReference, writable, names, Body.isSettled, Part.areWritableBodies,
      Dict.Sorted, Dict.keys]
  obtain ⟨template, compiled, ⟨sameBody, sameBlocks⟩, -⟩ := Template.compile_written canBeWritten
  rw [written] at compiled
  refine ⟨template, compiled, ?_⟩
  obtain ⟨source, body, blocks, file⟩ := template
  cases blocks with
  | cons block rest => cases sameBlocks
  | nil =>
    cases body with
    | nil => cases sameBody
    | cons part rest =>
      simp only [tree, Part.unplacedBody, List.cons.injEq] at sameBody
      obtain ⟨samePart, noMore⟩ := sameBody
      cases rest with
      | cons => cases noMore
      | nil =>
        cases part with
        | reference placed filters span =>
          simp only [Part.filtered, Part.unplaced, Part.reference.injEq, and_true] at samePart
          have names := congrArg (List.map Identifier.name) samePart.2
          refine ⟨placed, filters, span, rfl, samePart.1, ?_, rfl⟩
          simpa [Identifier.unplaced, Function.comp_def] using names
        | _ => cases samePart

/-- A template that is a reference comes to a halt or shows what the reference does. -/
theorem EngineM.renderOutput_filtered (engine : Engine) (input : RenderInput) {path : Path}
    {chain : List String} {template : Template} (filtered : template.IsFiltered path chain) :
    ∃ filters origin, filters.map Identifier.name = chain ∧
      ((EngineM.renderOutput template input).run engine).1 =
        if engine.bound = 0 then .error (.halt .exhausted)
        else .ok ((engine.renderer input).referenceOutput origin filters
          (Context.get? [.blocks []] ⟨input.data.withFiniteFloats, input.globals.withFiniteFloats⟩
            path)) := by
  obtain ⟨placed, filters, span, isReference, samePath, names, noBlocks⟩ := filtered
  refine ⟨filters, ⟨template, 0⟩, names, ?_⟩
  rw [renderOutput_run, Renderer.renderTemplate, isReference, noBlocks]
  cases engine.bound with
  | zero => rfl
  | succ bound =>
    rw [if_neg (Nat.succ_ne_zero bound), ← Context.get?_unplaced, ← samePath,
      Context.get?_unplaced]
    simp only [Renderer.renderBody, Renderer.renderParts, Renderer.renderPart,
      RenderM.runFrom_bind, Renderer.runFrom_reference, RenderM.runFrom_pure, answerTo]
    rfl

/-! ### Automatic filters -/

namespace Engine

/-- References with two chains of filters show the same text and the same message of an error, if
there is one: as parts of any templates, and as templates of their own. -/
structure WritesAlike (engine : Engine) (chain other : List String) : Prop where
  /-- As parts, wherever they stand and whatever has been rendered before. -/
  references : ∀ (input : RenderInput) (origin otherOrigin : Origin) (context : Context)
    (path otherPath : Path) (filters otherFilters : List Identifier) (state : RenderState),
    path.unplaced = otherPath.unplaced → filters.map Identifier.name = chain →
    otherFilters.map Identifier.name = other →
    ∃ written otherWritten : Output,
      ((engine.renderer input).renderReference origin context path filters).runFrom state =
        (.ok (), { state with output := state.output ++ written }) ∧
      ((engine.renderer input).renderReference otherOrigin context otherPath
        otherFilters).runFrom state =
        (.ok (), { state with output := state.output ++ otherWritten }) ∧
      written.shown = otherWritten.shown
  /-- As templates. -/
  sources : ∀ path : Path, path.isWritable = true → (∀ name ∈ chain, isWord name = true) →
    (∀ name ∈ other, isWord name = true) →
    ∃ template otherTemplate,
      Template.compile .preserve (filteredSource path chain) = .ok template ∧
      Template.compile .preserve (filteredSource path other) = .ok otherTemplate ∧
      ∀ input : RenderInput,
        ((EngineM.renderOutput template input).run engine).1.map Output.shown =
          ((EngineM.renderOutput otherTemplate input).run engine).1.map Output.shown

/-- References write alike if their chains make the same of every value and the same name is not
known. -/
theorem writesAlike_of_agree {engine : Engine} {chain other : List String}
    (agree : engine.filters.Agree chain other) : engine.WritesAlike chain other where
  references input origin otherOrigin context path otherPath filters otherFilters state samePath
      names otherNames := by
    have value : context.get? ⟨state.root, (engine.renderer input).globals⟩ otherPath =
        context.get? ⟨state.root, (engine.renderer input).globals⟩ path := by
      rw [← Context.get?_unplaced, ← samePath, Context.get?_unplaced]
    refine ⟨_, _, Renderer.runFrom_reference .., Renderer.runFrom_reference .., ?_⟩
    rw [value]
    refine Renderer.shown_referenceOutput ?_ origin otherOrigin _
    rw [names, otherNames]
    exact agree
  sources path writable words otherWords := by
    obtain ⟨template, compiled, filtered⟩ := compile_filteredSource writable words
    obtain ⟨otherTemplate, otherCompiled, otherFiltered⟩ :=
      compile_filteredSource writable otherWords
    refine ⟨template, otherTemplate, compiled, otherCompiled, fun input => ?_⟩
    obtain ⟨filters, origin, names, answer⟩ := EngineM.renderOutput_filtered engine input filtered
    obtain ⟨otherFilters, otherOrigin, otherNames, otherAnswer⟩ :=
      EngineM.renderOutput_filtered engine input otherFiltered
    rw [answer, otherAnswer]
    split
    · rfl
    · refine congrArg Except.ok (Renderer.shown_referenceOutput ?_ origin otherOrigin _)
      rw [names, otherNames]
      exact agree

/-- Automatic filters are applied as if they were written out. Let an engine be told which filters
are automatic, all of them registered and none of them `s`. A chain without `s` that names none of
them writes what it writes with all of them behind it. Chains that name `s` write the same if they
are the same without it, so that it can be named again or less often. -/
theorem automatic_as_written (engine : Engine) (names : List String)
    (registered : ∀ name ∈ names, engine.filters.known.has name = true)
    (unsuppressing : Filter.suppressing ∉ names) :
    let set := engine.setAutomaticFilters names
    let automatic := set.filters.automatic
    automatic.Nodup ∧ (∀ name, name ∈ automatic ↔ name ∈ names) ∧
    (∀ chain : List String, Filter.suppressing ∉ chain → (∀ name ∈ automatic, name ∉ chain) →
      set.WritesAlike chain (chain ++ automatic)) ∧
    ∀ chain other : List String, Filter.suppressing ∈ chain → Filter.suppressing ∈ other →
      chain.filter (· ≠ Filter.suppressing) = other.filter (· ≠ Filter.suppressing) →
      set.WritesAlike chain other := by
  intro set automatic
  have mem (name : String) : name ∈ automatic ↔ name ∈ names := List.mem_eraseDups
  refine ⟨nodup_eraseDups names, mem, fun chain applies apart => ?_,
    fun chain other suppresses suppresses' same => ?_⟩
  · exact writesAlike_of_agree (FilterSet.agree_append_automatic applies
      (mt (mem _).mp unsuppressing) apart fun name isAutomatic =>
        registered name ((mem name).mp isAutomatic))
  · exact writesAlike_of_agree (FilterSet.agree_of_suppressing suppresses suppresses' same)

/-- An engine with a filter that frames a value. -/
def framing : Engine :=
  ({ sources := { files := ⟨.directory [], []⟩ } } : Engine).addFilter "frame" fun value =>
    .string ("<" ++ value.display ++ ">")

/-- The filters `frame` and `h` can be written out behind a chain with a name that is not known, and
`s` can be named once more in it. -/
theorem automatic_as_written_framing :
    let set := framing.setAutomaticFilters ["frame", "h", "frame"]
    (∀ name ∈ ["frame", "h", "frame"], framing.filters.known.has name = true) ∧
      Filter.suppressing ∉ ["frame", "h", "frame"] ∧ set.filters.automatic = ["frame", "h"] ∧
      set.WritesAlike ["j", "unknown", "j"] ["j", "unknown", "j", "frame", "h"] ∧
      set.WritesAlike ["s", "h", "unknown"] ["h", "s", "unknown", "s"] := by
  obtain ⟨-, -, written, suppressed⟩ := automatic_as_written framing ["frame", "h", "frame"]
    (by decide) (by decide)
  exact ⟨by decide, by decide, by decide, written _ (by decide) (by decide),
    suppressed _ _ (by decide) (by decide) (by decide)⟩

end Engine

end Dust
