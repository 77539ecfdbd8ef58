import Dust.Engine.Survey
import Dust.Proofs.Store.Settled

/-!
# What a survey visits

A survey asks for names and visits the templates that they lead to. It never asks for a name twice,
so it ends on every store, also where templates include each other in a circle. All names that it
gathers are those of templates that are included, step by step, from the names it starts from, and
it misses none of these as long as a name leads to the same template wherever it is asked for.
-/

namespace Dust

/-- A name is asked for from a directory: it is one of those to start from, or it stands in a
template that a name leads to which is asked for. -/
inductive Store.Asks (sources : Sources) (store : Store) (starts : List String) :
    String → Option FilePath → Prop where
  /-- A name to start from is asked for from no directory. -/
  | start {name : String} (mem : name ∈ starts) : Asks sources store starts name none
  /-- The names in a template are asked for from its directory. -/
  | included {name inner : String} {base : Option FilePath} {template : Template}
    (asks : Asks sources store starts name base)
    (loaded : (store.load sources name base).1 = .ok (some template))
    (mem : inner ∈ template.partialNames) : Asks sources store starts inner template.directory?

namespace Store

variable (sources : Sources) (store : Store) (starts : List String)

/-- A template is one that a name leads to which is asked for. -/
def Includes (template : Template) : Prop :=
  ∃ name base, store.Asks sources starts name base ∧
    (store.load sources name base).1 = .ok (some template)

/-- All names that are asked for can be loaded, if they lead to a template. -/
def LoadsAsked : Prop :=
  ∀ name base, store.Asks sources starts name base →
    ∃ found, (store.load sources name base).1 = .ok found

/-- A name that is asked for from two directories leads to the same from both. -/
def AsksAlike : Prop :=
  ∀ name base other, store.Asks sources starts name base → store.Asks sources starts name other →
    (store.load sources name base).1 = (store.load sources name other).1

/-- The names that can be asked for where names lead to some templates. -/
def askable (starts : List String) (templates : List Template) : List String :=
  starts ++ templates.flatMap Template.partialNames

variable {sources store starts}

/-- Whatever is asked for is among the names to start from and those in templates. -/
theorem Asks.mem_askable {templates : List Template}
    (settled : store.IsSettled sources templates) {name : String} {base : Option FilePath}
    (asks : store.Asks sources starts name base) : name ∈ askable starts templates := by
  cases asks with
  | start mem => exact List.mem_append_left _ mem
  | included asks loaded mem =>
    have known := settled.known _ _ _ loaded
    exact List.mem_append_right _ (List.mem_flatMap.mpr ⟨_, known, mem⟩)

/-- Whether questions all have answers, and lead to no others. -/
def isClosed (sources : Sources) (store : Store) (questions : List (String × Option FilePath)) :
    Bool :=
  questions.all fun question =>
    match (store.load sources question.1 question.2).1 with
    | .ok (some template) =>
      template.partialNames.all fun inner => questions.contains (inner, template.directory?)
    | .ok none => true
    | .error _ => false

/-- Questions that all have answers and lead to no others are all that are asked. -/
theorem Asks.mem_of_isClosed {questions : List (String × Option FilePath)}
    (closed : store.isClosed sources questions = true)
    (begins : ∀ name ∈ starts, (name, none) ∈ questions) {name : String} {base : Option FilePath}
    (asks : store.Asks sources starts name base) : (name, base) ∈ questions := by
  induction asks with
  | start mem => exact begins _ mem
  | included _ loaded mem induction =>
    have answered := List.all_eq_true.mp closed _ induction
    simp only [loaded] at answered
    exact List.contains_iff_mem.mp (List.all_eq_true.mp answered _ mem)

/-- Questions that have answers are about names that can be loaded. -/
theorem loadsAsked_of_isClosed {questions : List (String × Option FilePath)}
    (closed : store.isClosed sources questions = true)
    (begins : ∀ name ∈ starts, (name, none) ∈ questions) : store.LoadsAsked sources starts := by
  intro name base asks
  have answered := List.all_eq_true.mp closed _ (asks.mem_of_isClosed closed begins)
  dsimp only at answered
  cases loaded : (store.load sources name base).1 with
  | ok found => exact ⟨found, rfl⟩
  | error error =>
    rw [loaded] at answered
    cases answered

end Store

/-- An engine comes from another one by loading templates and running probes. -/
structure Engine.Succeeds (start engine : Engine) : Prop where
  /-- The settings stay. -/
  settings : engine = { start with store := engine.store, reports := engine.reports }
  /-- Templates have been loaded. -/
  evolves : start.store.Evolves start.sources engine.store

/-- An engine comes from itself. -/
theorem Engine.Succeeds.refl (engine : Engine) : engine.Succeeds engine :=
  ⟨rfl, .refl⟩

namespace EngineM

variable {α β : Type}

/-- What follows a step starts from the engine that the step leaves. -/
theorem run_bind_ok {first : EngineM α} {next : α → EngineM β} {engine later : Engine} {value : α}
    (ends : first.run engine = (.ok value, later)) :
    (first >>= next).run engine = (next value).run later := by
  change (match first.run engine with
    | (result, later) =>
      (ExceptT.bindCont next result : StateM Engine (Except Failure β)) later) = _
  rw [ends]
  rfl

/-- A step of the store leaves the store that it makes, also when it fails. -/
theorem onStore_run (step : Sources → Store → Except Error α × Store) (engine : Engine) :
    (onStore step).run engine =
      ((step engine.sources engine.store).1.mapError Failure.error,
        { engine with store := (step engine.sources engine.store).2 }) := by
  have parts : (onStore step).run engine =
      (ofExcept (step engine.sources engine.store).1).run
        { engine with store := (step engine.sources engine.store).2 } := rfl
  rw [parts]
  cases (step engine.sources engine.store).1 <;> rfl

/-- Loading a template answers with what the name leads to in the beginning. -/
theorem loadFrom_run {start engine : Engine} {templates : List Template}
    (settled : start.store.IsSettled start.sources templates) (succeeds : start.Succeeds engine)
    {base : Option FilePath} {name : String} {found : Option Template}
    (loaded : (start.store.load start.sources name base).1 = .ok found) :
    ∃ later, (loadFrom base name).run engine = (.ok found, later) ∧ start.Succeeds later := by
  have sources : engine.sources = start.sources := by rw [succeeds.settings]
  have same : (engine.store.load engine.sources name base).1 = .ok found := by
    rw [sources, settled.steady _ succeeds.evolves, loaded]
  refine ⟨{ engine with store := (engine.store.load engine.sources name base).2 }, ?_, ?_, ?_⟩
  · rw [loadFrom, onStore_run, same]
    rfl
  · rw [succeeds.settings]
  · exact succeeds.evolves.tail ⟨name, base, by rw [sources]⟩

end EngineM

/-- A way to gather names from templates that never fails on the engines that come from some
engine. -/
def Engine.Gathers (start : Engine) (run : Template → EngineM (List String))
    (names : Template → List String) : Prop :=
  ∀ engine, start.Succeeds engine → ∀ template, ∃ later,
    (run template).run engine = (.ok (names template), later) ∧ start.Succeeds later

/-- Gathering the names of helpers never fails. -/
theorem Engine.gathers_helperNames (engine : Engine) :
    engine.Gathers EngineM.gatherHelpers Template.helperNames :=
  fun later succeeds _ => ⟨later, rfl, succeeds⟩

namespace Survey

variable (start : Engine) (starts : List String) (names : Template → List String)

/-- A survey has found more than before, and has followed all names that it has seen since. -/
structure Grows (before after : Survey) : Prop where
  /-- Names that are seen stay so. -/
  seen : before.seen ⊆ after.seen
  /-- Names that are gathered stay so. -/
  gathered : before.gathered ⊆ after.gathered
  /-- What a new name leads to has been visited, and so have the names in it. -/
  followed : ∀ name ∈ after.seen, name ∉ before.seen →
    ∃ base, start.store.Asks start.sources starts name base ∧ ∀ template,
      (start.store.load start.sources name base).1 = .ok (some template) →
        names template ⊆ after.gathered ∧ template.partialNames ⊆ after.seen
  /-- What is gathered anew is gathered from templates that are included. -/
  sound : ∀ name ∈ after.gathered, name ∈ before.gathered ∨ ∃ template,
    start.store.Includes start.sources starts template ∧ name ∈ names template

/-- The number of names that have not been seen. -/
def unseen (names : List String) (survey : Survey) : Nat :=
  (names.toFinset \ survey.seen.toFinset).card

/-- The names of a template are gathered with those before. -/
theorem mem_gather {survey : Survey} {added : List String} {name : String} :
    name ∈ (survey.gather added).gathered ↔ name ∈ survey.gathered ∨ name ∈ added := by
  simp [gather]

/-- The more names are seen, the fewer are not. -/
theorem unseen_le {names : List String} {before after : Survey} (grows : before.seen ⊆ after.seen) :
    unseen names after ≤ unseen names before := by
  refine Finset.card_le_card (Finset.sdiff_subset_sdiff subset_rfl fun name mem => ?_)
  exact List.mem_toFinset.mpr (grows (List.mem_toFinset.mp mem))

/-- Seeing a new name leaves fewer that are not seen. -/
theorem unseen_lt {names : List String} {before after : Survey} {name : String}
    (mem : name ∈ names) (isNew : name ∉ before.seen) (grows : before.seen ⊆ after.seen)
    (seen : name ∈ after.seen) : unseen names after < unseen names before := by
  refine Finset.card_lt_card (Finset.ssubset_iff_subset_ne.mpr ⟨?_, fun same => ?_⟩)
  · exact Finset.sdiff_subset_sdiff subset_rfl fun name mem =>
      List.mem_toFinset.mpr (grows (List.mem_toFinset.mp mem))
  · have isUnseen : name ∈ names.toFinset \ before.seen.toFinset := by simp [mem, isNew]
    rw [← same] at isUnseen
    simp [seen] at isUnseen

variable {start starts names}

/-- A survey has grown when it has found nothing more. -/
theorem Grows.refl (survey : Survey) : Grows start starts names survey survey :=
  ⟨fun _ => id, fun _ => id, fun _ mem isNew => absurd mem isNew, fun _ => .inl⟩

/-- A survey may grow again. -/
theorem Grows.trans {before between after : Survey}
    (first : Grows start starts names before between)
    (second : Grows start starts names between after) :
    Grows start starts names before after where
  seen := fun _ mem => second.seen (first.seen mem)
  gathered := fun _ mem => second.gathered (first.gathered mem)
  followed name mem isNew := by
    by_cases seen : name ∈ between.seen
    · obtain ⟨base, asks, visited⟩ := first.followed name seen isNew
      refine ⟨base, asks, fun template loaded => ?_⟩
      obtain ⟨own, partials⟩ := visited template loaded
      exact ⟨fun _ mem => second.gathered (own mem), fun _ mem => second.seen (partials mem)⟩
    · exact second.followed name mem seen
  sound name mem := by
    rcases second.sound name mem with isOld | isNew
    · exact first.sound name isOld
    · exact .inr isNew

/-- A survey has grown when a name has been seen that leads to nothing. -/
theorem Grows.ofNothing {survey : Survey} {name : String} {base : Option FilePath}
    (asks : start.store.Asks start.sources starts name base)
    (loaded : (start.store.load start.sources name base).1 = .ok none) :
    Grows start starts names survey { survey with seen := name :: survey.seen } where
  seen := List.subset_cons_self _ _
  gathered := fun _ => id
  followed other mem isNew := by
    obtain rfl : other = name := (List.mem_cons.mp mem).resolve_right isNew
    refine ⟨base, asks, fun template found => ?_⟩
    rw [loaded] at found
    cases found
  sound _ := .inl

/-- A survey has grown when a name has been seen, its template has been visited, and then the names
in the template. -/
theorem Grows.ofTemplate {survey after : Survey} {name : String} {base : Option FilePath}
    {template : Template} (asks : start.store.Asks start.sources starts name base)
    (loaded : (start.store.load start.sources name base).1 = .ok (some template))
    (grows : Grows start starts names
      ({ survey with seen := name :: survey.seen }.gather (names template)) after)
    (partials : template.partialNames ⊆ after.seen) : Grows start starts names survey after where
  seen := fun _ mem => grows.seen (List.mem_cons_of_mem _ mem)
  gathered := fun _ mem => grows.gathered (mem_gather.mpr (.inl mem))
  followed other mem isNew := by
    by_cases same : other = name
    · subst same
      refine ⟨base, asks, fun found isFound => ?_⟩
      rw [loaded] at isFound
      cases isFound
      exact ⟨fun _ mem => grows.gathered (mem_gather.mpr (.inr mem)), partials⟩
    · exact grows.followed other mem fun seen => isNew ((List.mem_cons.mp seen).resolve_left same)
  sound helper mem := by
    rcases grows.sound helper mem with isOld | isNew
    · exact (mem_gather.mp isOld).imp id fun own => ⟨template, ⟨name, base, asks, loaded⟩, own⟩
    · exact .inr isNew

end Survey

namespace EngineM

variable {start : Engine} {starts : List String} {names : Template → List String}
  {run : Template → EngineM (List String)}

/-- Visiting names one after the other ends if visiting each of them does. All of them have been
seen then. -/
theorem foldlM_visit {visitOne : Survey → String → EngineM Survey} {list : List String}
    {least : Survey}
    (each : ∀ name ∈ list, ∀ engine survey, start.Succeeds engine → least.seen ⊆ survey.seen →
      ∃ after later, (visitOne survey name).run engine = (.ok after, later) ∧
        start.Succeeds later ∧ Survey.Grows start starts names survey after ∧ name ∈ after.seen)
    {engine : Engine} (succeeds : start.Succeeds engine) {survey : Survey}
    (more : least.seen ⊆ survey.seen) :
    ∃ after later, (list.foldlM visitOne survey).run engine = (.ok after, later) ∧
      start.Succeeds later ∧ Survey.Grows start starts names survey after ∧
      list ⊆ after.seen := by
  induction list generalizing engine survey with
  | nil => exact ⟨survey, engine, rfl, succeeds, .refl survey, List.nil_subset _⟩
  | cons name rest induction =>
    obtain ⟨between, middle, first, succeeds, grows, seen⟩ :=
      each name List.mem_cons_self engine survey succeeds more
    obtain ⟨after, later, others, succeeds, growsAgain, allSeen⟩ :=
      induction (fun other mem => each other (List.mem_cons_of_mem _ mem)) succeeds
        (List.Subset.trans more grows.seen)
    refine ⟨after, later, ?_, succeeds, grows.trans growsAgain, ?_⟩
    · rw [List.foldlM_cons, run_bind_ok first, others]
    · exact List.cons_subset.mpr ⟨growsAgain.seen seen, allSeen⟩

section Visit

variable {templates : List Template} (settled : start.store.IsSettled start.sources templates)
  (loads : start.store.LoadsAsked start.sources starts) (gathers : start.Gathers run names)

include settled loads gathers

/-- Visiting a name that is asked for ends if the bound allows for all names that have not been
seen. The name has been seen then. -/
theorem visit_run {bound : Nat} {base : Option FilePath} {name : String} {engine : Engine}
    {survey : Survey} (asks : start.store.Asks start.sources starts name base)
    (succeeds : start.Succeeds engine)
    (enough : survey.unseen (Store.askable starts templates) < bound) :
    ∃ after later, (visit run bound base survey name).run engine = (.ok after, later) ∧
      start.Succeeds later ∧ Survey.Grows start starts names survey after ∧
      name ∈ after.seen := by
  induction bound generalizing base name engine survey with
  | zero => exact absurd enough (Nat.not_lt_zero _)
  | succ bound induction =>
    unfold visit
    by_cases isOld : name ∈ survey.seen
    · rw [if_pos (List.contains_iff_mem.mpr isOld)]
      exact ⟨survey, engine, rfl, succeeds, .refl survey, isOld⟩
    · rw [if_neg (fun contains => isOld (List.contains_iff_mem.mp contains))]
      obtain ⟨found, loaded⟩ := loads name base asks
      obtain ⟨middle, load, succeeds⟩ := loadFrom_run settled succeeds loaded
      dsimp only
      rw [run_bind_ok load]
      cases found with
      | none => exact ⟨_, middle, rfl, succeeds, .ofNothing asks loaded, List.mem_cons_self⟩
      | some template =>
        obtain ⟨middle, own, succeeds⟩ := gathers middle succeeds template
        dsimp only
        rw [run_bind_ok own]
        -- The name is new, so one name less is left for the names in its template.
        have fewer : survey.unseen (Store.askable starts templates) ≤ bound := by omega
        obtain ⟨after, later, partials, succeeds, grows, seen⟩ := @foldlM_visit
          start starts names (visit run bound template.directory?) _ _
          (fun inner mem engine between succeeds more => induction (.included asks loaded mem)
            succeeds (by
              have less := Survey.unseen_lt (asks.mem_askable settled) isOld
                (fun _ mem => more (List.mem_cons_of_mem _ mem)) (more List.mem_cons_self)
              omega))
          _ succeeds _ (List.Subset.refl
            ({ survey with seen := name :: survey.seen }.gather (names template)).seen)
        exact ⟨after, later, partials, succeeds, .ofTemplate asks loaded grows seen,
          grows.seen List.mem_cons_self⟩

/-- Visiting names ends if the bound allows for all names that can be asked for. What is gathered is
gathered from templates that are included, and from all of these if every name leads to the same
from wherever it is asked for. -/
theorem visitAll_run (enough : (Store.askable starts templates).length < start.bound) :
    ∃ found later, (visitAll run starts).run start = (.ok found, later) ∧ start.Succeeds later ∧
      (∀ name ∈ found, ∃ template, start.store.Includes start.sources starts template ∧
        name ∈ names template) ∧
      (start.store.AsksAlike start.sources starts →
        ∀ template, start.store.Includes start.sources starts template →
          names template ⊆ found) := by
  have least : Survey.unseen (Store.askable starts templates) {} < start.bound :=
    Nat.lt_of_le_of_lt (Finset.card_le_card Finset.sdiff_subset |>.trans
      (List.toFinset_card_le _)) enough
  obtain ⟨after, later, visited, succeeds, grows, seen⟩ := @foldlM_visit
    start starts names (visit run start.bound none) _ {}
    (fun name mem engine survey succeeds more => visit_run settled loads gathers (.start mem)
      succeeds (Nat.lt_of_le_of_lt (Survey.unseen_le more) least))
    _ (.refl start) _ (List.Subset.refl (Survey.seen {}))
  refine ⟨after.gathered, later, ?_, succeeds, fun name mem => ?_, fun alike => ?_⟩
  · change (starts.foldlM (visit run start.bound none) {} >>= fun survey =>
      (pure survey.gathered : EngineM (List String))).run start = _
    rw [run_bind_ok visited]
    rfl
  · exact (grows.sound name mem).resolve_left List.not_mem_nil
  · have allSeen (name : String) (base : Option FilePath)
        (asks : start.store.Asks start.sources starts name base) :
        name ∈ after.seen ∧ ∀ template,
          (start.store.load start.sources name base).1 = .ok (some template) →
            names template ⊆ after.gathered ∧ template.partialNames ⊆ after.seen := by
      have visitedIf {name : String} {base : Option FilePath}
          (asks : start.store.Asks start.sources starts name base) (mem : name ∈ after.seen) :
          ∀ template, (start.store.load start.sources name base).1 = .ok (some template) →
            names template ⊆ after.gathered ∧ template.partialNames ⊆ after.seen := by
        obtain ⟨other, asksOther, visited⟩ := grows.followed name mem List.not_mem_nil
        rw [alike name base other asks asksOther]
        exact visited
      induction asks with
      | start mem => exact ⟨seen mem, visitedIf (.start mem) (seen mem)⟩
      | included asks loaded mem induction =>
        have isSeen := (induction.2 _ loaded).2 mem
        exact ⟨isSeen, visitedIf (.included asks loaded mem) isSeen⟩
    rintro template ⟨name, base, asks, loaded⟩
    exact ((allSeen name base asks).2 template loaded).1

end Visit

end EngineM

end Dust
