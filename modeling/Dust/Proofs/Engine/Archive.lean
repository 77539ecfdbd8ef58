import Mathlib
import Dust.Engine.Archive
import Dust.Proofs.Store.Compiled
import Dust.Proofs.Syntax.Archived

/-!
# Archives of engines

What an engine writes of its templates is read back exactly if no template is nested too deep for
the reader and every double in a tag is finite. Whenever it is read back and there are no doubles,
the templates are the same as before.
-/

namespace Dust

/-- All doubles in tags are finite. -/
def finite : Demand where
  float x := x.isFinite = true

/-- There are no doubles in tags. -/
def floatless : Demand where
  float _ := False

/-- Where there are no doubles all of them are finite. -/
theorem floatless_follows : floatless.Follows floatless finite where
  span _ _ := trivial
  name _ _ := trivial
  index _ _ := trivial
  float absent _ := absent.elim
  keys _ _ := trivial
  part _ _ := trivial

namespace Template.IsCompiled

variable {template : Template}

/-- A compiled template whose source has less than 2 to the 64 bytes needs no more than room and
finite doubles to be read back. -/
theorem isStorable_iff (compiled : template.IsCompiled)
    (fits : Text.byteSize template.source.toList < Json.unsignedBound) :
    template.IsStorable ↔
      template.toJson.depth ≤ Json.maxDepth - 1 ∧ template.Meets finite := by
  have place {span : Span} (inside : span.IsIn template.source.toList) : span.IsStorable :=
    ⟨Nat.lt_of_le_of_lt (Nat.le_trans inside.le inside.stop_le) fits,
      Nat.lt_of_le_of_lt inside.stop_le fits⟩
  have toStorable : (writtenIn template.source.toList).Follows finite storable :=
    ⟨fun inside _ => place inside, fun shows _ => place shows.isIn, fun bounded _ => bounded,
      fun _ isFinite => isFinite, fun _ _ => trivial, fun _ _ => trivial⟩
  have toFinite : storable.Follows storable finite :=
    ⟨fun _ _ => trivial, fun _ _ => trivial, fun _ _ => trivial, fun isFinite _ => isFinite,
      fun _ _ => trivial, fun _ _ => trivial⟩
  exact and_congr_right fun _ =>
    ⟨fun meets => meets_of_both toFinite meets meets, meets_of_both toStorable compiled.meets⟩

/-- A compiled template without doubles comes back as it is. -/
theorem reread_of_floatless (compiled : template.IsCompiled) (none : template.Meets floatless) :
    template.reread = template := by
  have follows : (writtenIn template.source.toList).Follows floatless faithful :=
    ⟨fun _ _ => trivial, fun _ _ => trivial, fun _ _ => trivial, fun _ absent => absent,
      fun sorted _ => sorted, fun _ _ => trivial⟩
  exact reread_of_faithful (meets_of_both follows compiled.meets none)

end Template.IsCompiled

namespace EngineM

/-- An engine keeps the templates that a text holds, and is as before if it holds none. -/
theorem unarchive_run (text : String) (engine : Engine) :
    (unarchive text).run engine =
      match Template.ofArchive? text with
      | none => (.error (.error { fault := .archive }), engine)
      | some templates =>
        (.ok (), { engine with
          store := { engine.store with
            templates := engine.store.templates.insertAll templates } }) := by
  unfold unarchive
  cases Template.ofArchive? text <;> rfl

/-- What an engine writes is read back exactly if every template can be. -/
theorem unarchive_archive_ok (engine fresh : Engine) :
    ((unarchive engine.archive).run fresh).1 = .ok () ↔
      ∀ entry ∈ engine.store.templates, entry.2.IsStorable := by
  rw [unarchive_run, Engine.archive]
  constructor
  · intro read
    split at read
    · cases read
    · rename_i templates found
      exact (Template.ofArchive?_archive.mp found).1
  · intro all
    rw [Template.ofArchive?_archive.mpr ⟨all, rfl⟩]

/-- What an engine writes of compiled templates is read back exactly if no template is nested too
deep and all doubles are finite. -/
theorem unarchive_archive_ok_iff (engine fresh : Engine) (compiled : engine.store.IsCompiled)
    (fits : ∀ entry ∈ engine.store.templates,
      Text.byteSize entry.2.source.toList < Json.unsignedBound) :
    ((unarchive engine.archive).run fresh).1 = .ok () ↔
      ∀ entry ∈ engine.store.templates,
        entry.2.toJson.depth ≤ Json.maxDepth - 1 ∧ entry.2.Meets finite :=
  (unarchive_archive_ok engine fresh).trans <| forall₂_congr fun entry mem =>
    (compiled.compiled entry mem).isStorable_iff (fits entry mem)

end EngineM

/-- An engine that knows no templates and no files. -/
def freshEngine : Engine where
  sources := { files := ⟨.directory [], []⟩ }

/-- An engine that knows one template. -/
def Template.engine (template : Template) : Engine :=
  { freshEngine with store := { templates := [("page", template)] } }

/-- The engine of a compiled template knows nothing else. -/
theorem Template.engine_isCompiled {template : Template} (compiled : template.IsCompiled) :
    template.engine.store.IsCompiled where
  sorted := List.pairwise_singleton ..
  compiled entry mem := by
    rw [List.mem_singleton.mp mem]
    exact compiled

/-- A greeting of the first of some people. -/
def greeting : Template where
  source := "Hi {people[0].name|h}!"
  body := [.text "Hi ",
    .reference ⟨.relative, [.name "people", .index 0, .name "name"], ⟨4, 18⟩⟩ [⟨"h", ⟨19, 20⟩⟩]
      ⟨3, 21⟩,
    .text "!"]
  blocks := []
  path := none

/-- There are no doubles in the greeting. -/
theorem greeting_floatless : greeting.Meets floatless := by
  simp [Template.meets_iff, greeting, floatless, Part.AllMeet, Part.Meets, Path.Meets,
    Path.KeysMeet, Key.Meets, Part.BodiesMeet]

/-- The greeting is what its source stands for. -/
theorem greeting_isCompiled : greeting.IsCompiled :=
  @Template.IsCompiled.of_compile greeting .preserve greeting.source (by cbv)

/-- The source of the greeting is short. -/
theorem byteSize_greeting : Text.byteSize greeting.source.toList < Json.unsignedBound := by
  decide

/-- There is room for the greeting and all its doubles are finite. -/
theorem greeting_fits :
    greeting.toJson.depth ≤ Json.maxDepth - 1 ∧ greeting.Meets finite :=
  ⟨by decide, Template.meets_of_both floatless_follows greeting_floatless greeting_floatless⟩

/-- The archive of the greeting is read back. -/
theorem EngineM.unarchive_archive_ok_greeting :
    ((unarchive greeting.engine.archive).run freshEngine).1 = .ok () := by
  refine (unarchive_archive_ok_iff greeting.engine freshEngine
    (Template.engine_isCompiled greeting_isCompiled) ?_).mpr ?_
  · exact List.forall_mem_singleton.mpr byteSize_greeting
  · exact List.forall_mem_singleton.mpr greeting_fits

/-- A reference whose path has paths in brackets nested in each other. -/
def nestedReference (depth : Nat) : String :=
  String.ofList ('{' :: ((List.replicate depth ['a', '[']).flatten ++
    'a' :: (List.replicate depth ']' ++ ['}'])))

set_option maxRecDepth 5000 in
/-- A reference with forty brackets is a template whose tree is nested too deep to be read back. -/
theorem compile_nestedReference :
    (Template.compile .preserve (nestedReference 40)).toOption.map
      (fun template => decide (template.toJson.depth ≤ Json.maxDepth - 1)) = some false := by
  cbv

/-- Not everything that an engine writes of compiled templates is read back. -/
theorem EngineM.unarchive_archive_fails_nested :
    ¬ ∀ engine fresh : Engine, engine.store.IsCompiled →
      (∀ entry ∈ engine.store.templates,
        Text.byteSize entry.2.source.toList < Json.unsignedBound) →
      ((unarchive engine.archive).run fresh).1 = .ok () := by
  intro always
  have nested := compile_nestedReference
  cases read : Template.compile .preserve (nestedReference 40) with
  | error fault => simp [read, Except.toOption] at nested
  | ok template =>
    have compiled := Template.IsCompiled.of_compile read
    have source := Template.compile_source read
    simp only [read, Except.toOption, Option.map_some, Option.some.injEq,
      decide_eq_false_iff_not] at nested
    have fits : Text.byteSize template.source.toList < Json.unsignedBound := by
      rw [source]
      decide +kernel
    have accepted := always template.engine freshEngine
      (Template.engine_isCompiled compiled) (by simpa [Template.engine] using fits)
    have storable := (unarchive_archive_ok template.engine freshEngine).mp accepted
    exact nested (storable ("page", template) List.mem_cons_self).1

namespace EngineM

/-- Whenever an engine without templates reads back what another one has written, it has the same
templates, if there are no doubles in them, and writes the same. -/
theorem unarchive_archive_faithful (engine fresh : Engine) (compiled : engine.store.IsCompiled)
    (none : ∀ entry ∈ engine.store.templates, entry.2.Meets floatless)
    (empty : fresh.store.templates = [])
    (accepted : ((unarchive engine.archive).run fresh).1 = .ok ()) :
    ((unarchive engine.archive).run fresh).2.store.templates = engine.store.templates ∧
      ((unarchive engine.archive).run fresh).2.archive = engine.archive := by
  rw [unarchive_run] at accepted ⊢
  split at accepted
  · cases accepted
  · rename_i templates found
    have read := (Template.ofArchive?_archive.mp found).2
    have same : engine.store.templates.map (fun entry => (entry.1, entry.2.reread)) =
        engine.store.templates := by
      refine (List.map_congr_left fun entry mem => ?_).trans (List.map_id _)
      rw [(compiled.compiled entry mem).reread_of_floatless (none entry mem), id]
    rw [same, Dict.ofList_of_sorted compiled.sorted] at read
    have kept : fresh.store.templates.insertAll templates = engine.store.templates := by
      rw [empty, ← read]
      exact Dict.ofList_of_sorted compiled.sorted
    exact ⟨kept, congrArg Template.archive kept⟩

end EngineM

/-- The archive of the greeting is read back as the greeting. -/
theorem EngineM.unarchive_archive_faithful_greeting :
    ((unarchive greeting.engine.archive).run freshEngine).1 = .ok () ∧
      ((unarchive greeting.engine.archive).run freshEngine).2.store.templates =
        [("page", greeting)] := by
  have storable := (greeting_isCompiled.isStorable_iff byteSize_greeting).mpr greeting_fits
  have accepted : ((unarchive greeting.engine.archive).run freshEngine).1 = .ok () :=
    (unarchive_archive_ok greeting.engine freshEngine).mpr
      (List.forall_mem_singleton.mpr storable)
  exact ⟨accepted, (unarchive_archive_faithful greeting.engine freshEngine
    (Template.engine_isCompiled greeting_isCompiled)
    (List.forall_mem_singleton.mpr greeting_floatless) rfl accepted).1⟩

end Dust
