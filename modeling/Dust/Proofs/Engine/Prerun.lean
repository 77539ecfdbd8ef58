import Dust.Proofs.Engine.OnDemand

/-!
# Running the probes of templates

The walk from template to template visits each name once, also where templates include each other in
a circle: its order is that of a search that goes deep first, and what it visits is what can be
reached. So running the probes of some names is the same as loading all templates that can be
reached one after the other, and running the probes of each.
-/

namespace Dust

/-! ### Lists without repetition -/

/-- No element is twice in a list without repetition. -/
theorem nodup_eraseDups (list : List String) : list.eraseDups.Nodup := by
  match list with
  | [] => exact List.nodup_nil
  | first :: rest =>
    rw [List.eraseDups_cons, List.nodup_cons]
    refine ⟨fun mem => ?_, nodup_eraseDups _⟩
    have differs := (List.mem_filter.mp (List.mem_eraseDups.mp mem)).2
    simp at differs
termination_by list.length
decreasing_by exact Nat.lt_succ_of_le (List.length_filter_le _ _)

/-- A list in which nothing is twice is without repetition. -/
theorem eraseDups_of_nodup {list : List String} (nodup : list.Nodup) : list.eraseDups = list := by
  induction list with
  | nil => rfl
  | cons first rest induction =>
    obtain ⟨isNew, nodup⟩ := List.nodup_cons.mp nodup
    have others : rest.filter (fun other => !other == first) = rest :=
      List.filter_eq_self.mpr fun other mem => by
        simpa using fun same : other = first => isNew (same ▸ mem)
    rw [List.eraseDups_cons, others, induction nodup]

/-- Repetition may be taken out of the front of a list first. -/
theorem eraseDups_append_eraseDups (front back : List String) :
    (front.eraseDups ++ back).eraseDups = (front ++ back).eraseDups := by
  have others : back.removeAll front.eraseDups = back.removeAll front :=
    List.filter_congr fun name _ => by simp [List.mem_eraseDups]
  rw [List.eraseDups_append, List.eraseDups_append, others, eraseDups_of_nodup (nodup_eraseDups _)]

/-! ### The order of a walk -/

namespace Store

/-- The names that the template of a name includes, if there is one. -/
def partialNames (store : Store) (name : String) : List String :=
  match store.get? name with
  | none => []
  | some template => template.partialNames

/-- Only a template that is there includes names. -/
theorem exists_get?_of_mem_partialNames {store : Store} {name inner : String}
    (mem : inner ∈ store.partialNames name) :
    ∃ template, store.get? name = some template ∧ inner ∈ template.partialNames := by
  unfold partialNames at mem
  cases found : store.get? name with
  | none =>
    rw [found] at mem
    cases mem
  | some template =>
    rw [found] at mem
    exact ⟨template, rfl, mem⟩

/-- A walk from some names on visits names in an order, where some names have been seen before. The
names in the template of a name come directly after it. -/
inductive Walks (store : Store) : List String → List String → List String → Prop where
  /-- No name is left. -/
  | done (seen : List String) : Walks store seen [] []
  /-- A name that has been seen is not visited again. -/
  | old {seen rest order : List String} {name : String} (isOld : name ∈ seen)
    (others : Walks store seen rest order) : Walks store seen (name :: rest) order
  /-- A name is visited, and then the names in its template. -/
  | new {seen rest inside order : List String} {name : String} (isNew : name ∉ seen)
    (inner : Walks store (name :: seen) (store.partialNames name) inside)
    (others : Walks store (inside.reverse ++ name :: seen) rest order) :
    Walks store seen (name :: rest) (name :: (inside ++ order))

namespace Walks

variable {sources : Sources} {store : Store} {seen list order : List String}

/-- No name is visited twice, and none that has been seen. -/
theorem nodup (walks : store.Walks seen list order) :
    order.Nodup ∧ ∀ name ∈ order, name ∉ seen := by
  induction walks with
  | done => exact ⟨List.nodup_nil, by simp⟩
  | old _ _ induction => exact induction
  | @new seen rest inside order name isNew _ _ inner others =>
    obtain ⟨insideNodup, insideNew⟩ := inner
    obtain ⟨orderNodup, orderNew⟩ := others
    simp only [List.mem_append, List.mem_reverse, List.mem_cons, not_or] at insideNew orderNew
    refine ⟨List.nodup_cons.mpr ⟨?_, ?_⟩, ?_⟩
    · intro mem
      rcases List.mem_append.mp mem with mem | mem
      · exact (insideNew name mem).1 rfl
      · exact (orderNew name mem).2.1 rfl
    · exact insideNodup.append orderNodup fun other mem again => (orderNew other again).1 mem
    · intro other mem
      rcases List.mem_cons.mp mem with rfl | mem
      · exact isNew
      · rcases List.mem_append.mp mem with mem | mem
        · exact (insideNew other mem).2
        · exact (orderNew other mem).2.2

/-- All names have been seen in the end. -/
theorem covers (walks : store.Walks seen list order) :
    ∀ name ∈ list, name ∈ order ∨ name ∈ seen := by
  induction walks with
  | done => simp
  | old isOld _ induction =>
    intro other mem
    rcases List.mem_cons.mp mem with rfl | mem
    · exact .inr isOld
    · exact induction other mem
  | @new seen rest inside order name _ _ _ _ others =>
    intro other mem
    rcases List.mem_cons.mp mem with rfl | mem
    · exact .inl List.mem_cons_self
    · have found := others other mem
      simp only [List.mem_append, List.mem_reverse, List.mem_cons] at found ⊢
      tauto

/-- All names in the templates that are visited have been seen in the end. -/
theorem follows (walks : store.Walks seen list order) :
    ∀ name ∈ order, ∀ inner ∈ store.partialNames name, inner ∈ order ∨ inner ∈ seen := by
  induction walks with
  | done => simp
  | old _ _ induction => exact induction
  | @new seen rest inside order name _ inner _ innerFollows othersFollow =>
    intro other mem included isIncluded
    have found : included ∈ order ∨ included ∈ inside ∨ included = name ∨ included ∈ seen := by
      rcases List.mem_cons.mp mem with rfl | mem
      · have covered := inner.covers included isIncluded
        simp only [List.mem_cons] at covered
        tauto
      · rcases List.mem_append.mp mem with mem | mem
        · have followed := innerFollows other mem included isIncluded
          simp only [List.mem_cons] at followed
          tauto
        · have followed := othersFollow other mem included isIncluded
          simp only [List.mem_append, List.mem_reverse, List.mem_cons] at followed
          tauto
    simp only [List.mem_cons, List.mem_append]
    tauto

/-- Only names that are asked for are visited. -/
theorem sound (closed : store.IsClosed sources) {starts : List String}
    (walks : store.Walks seen list order)
    (asked : ∀ name ∈ list, ∃ base, store.Asks sources starts name base) :
    ∀ name ∈ order, ∃ base, store.Asks sources starts name base := by
  induction walks with
  | done => simp
  | old _ _ induction => exact induction fun name mem => asked name (List.mem_cons_of_mem _ mem)
  | @new seen rest inside order name _ _ _ innerSound othersSound =>
    obtain ⟨base, asks⟩ := asked name List.mem_cons_self
    have partials : ∀ inner ∈ store.partialNames name,
        ∃ base, store.Asks sources starts inner base := by
      intro inner mem
      obtain ⟨template, found, mem⟩ := Store.exists_get?_of_mem_partialNames mem
      exact ⟨_, .included asks ((closed.load name base).trans (congrArg Except.ok found)) mem⟩
    intro other mem
    rcases List.mem_cons.mp mem with rfl | mem
    · exact ⟨base, asks⟩
    · rcases List.mem_append.mp mem with mem | mem
      · exact innerSound partials other mem
      · exact othersSound (fun other mem => asked other (List.mem_cons_of_mem _ mem)) other mem

/-- From the beginning, all names that are asked for are visited, and no others. -/
theorem mem_iff (closed : store.IsClosed sources) {starts : List String}
    (walks : store.Walks [] starts order) (name : String) :
    name ∈ order ↔ ∃ base, store.Asks sources starts name base := by
  refine ⟨walks.sound closed (fun name mem => ⟨none, .start mem⟩) name, ?_⟩
  rintro ⟨base, asks⟩
  induction asks with
  | start mem => exact (walks.covers _ mem).resolve_right List.not_mem_nil
  | @included outer inner base template _ loaded mem visited =>
    have found : store.get? outer = some template :=
      Except.ok.inj ((closed.load outer base).symm.trans loaded)
    refine (walks.follows outer visited inner ?_).resolve_right List.not_mem_nil
    rwa [Store.partialNames, found]

end Walks

/-- The names in a template can be asked for. -/
theorem partialNames_subset_askable (store : Store) (starts : List String) (name : String) :
    store.partialNames name ⊆ askable starts store.templates.values := by
  intro inner mem
  obtain ⟨template, found, mem⟩ := exists_get?_of_mem_partialNames mem
  exact List.mem_append_right _ (List.mem_flatMap.mpr
    ⟨template, List.mem_map_of_mem (Dict.mem_of_get? found), mem⟩)

/-- There is a walk from all names that can be asked for, since each name that is visited is one
name less that has not been seen. -/
theorem exists_walks (store : Store) (starts : List String) {seen list : List String}
    (known : list ⊆ askable starts store.templates.values) :
    ∃ order, store.Walks seen list order := by
  obtain ⟨bound, enough⟩ :
      ∃ bound, Survey.unseen (askable starts store.templates.values) { seen } < bound :=
    ⟨_, Nat.lt_succ_self _⟩
  induction bound generalizing seen list with
  | zero => exact absurd enough (Nat.not_lt_zero _)
  | succ bound shallower =>
    induction list generalizing seen with
    | nil => exact ⟨[], .done seen⟩
    | cons name rest later =>
      obtain ⟨isKnown, known⟩ := List.cons_subset.mp known
      by_cases isOld : name ∈ seen
      · obtain ⟨order, others⟩ := later known enough
        exact ⟨order, .old isOld others⟩
      · let askable := askable starts store.templates.values
        have less : Survey.unseen askable { seen := name :: seen } <
            Survey.unseen askable { seen } :=
          Survey.unseen_lt isKnown isOld (List.subset_cons_self _ _) List.mem_cons_self
        obtain ⟨inside, inner⟩ : ∃ inside,
            store.Walks (name :: seen) (store.partialNames name) inside :=
          shallower (store.partialNames_subset_askable starts name)
            (Nat.lt_of_lt_of_le less (Nat.le_of_lt_succ enough))
        have notMore : Survey.unseen askable { seen := inside.reverse ++ name :: seen } ≤
            Survey.unseen askable { seen } :=
          Survey.unseen_le fun other mem => List.mem_append_right _ (List.mem_cons_of_mem _ mem)
        obtain ⟨order, others⟩ := later known (Nat.lt_of_le_of_lt notMore enough)
        exact ⟨name :: (inside ++ order), .new isOld inner others⟩

end Store

/-! ### Visiting in order -/

namespace EngineM

variable {α β : Type}

/-- What follows a step starts from the engine that the step leaves. Nothing follows a failure. -/
theorem run_bind (first : EngineM α) (next : α → EngineM β) (engine : Engine) :
    (first >>= next).run engine =
      match first.run engine with
      | (.ok value, later) => (next value).run later
      | (.error failure, later) => (.error failure, later) := by
  change (match first.run engine with
    | (result, later) =>
      (ExceptT.bindCont next result : StateM Engine (Except Failure β)) later) = _
  rcases first.run engine with ⟨result, later⟩
  cases result <;> rfl

/-- Two steps in a row succeed if both do. -/
theorem run_bind_eq_ok {first : EngineM α} {next : α → EngineM β} {engine later : Engine}
    {value : β} (ran : (first >>= next).run engine = (.ok value, later)) :
    ∃ between middle, first.run engine = (.ok between, middle) ∧
      (next between).run middle = (.ok value, later) := by
  rw [run_bind] at ran
  rcases run : first.run engine with ⟨result, middle⟩
  rw [run] at ran
  cases result with
  | error failure => cases ran
  | ok between => exact ⟨between, middle, rfl, ran⟩

/-- Of two steps in a row that fail, the first one does or the second one after it. -/
theorem run_bind_eq_error {first : EngineM α} {next : α → EngineM β} {engine : Engine}
    {failure : Failure} (failed : ((first >>= next).run engine).1 = .error failure) :
    (first.run engine).1 = .error failure ∨ ∃ between middle,
      first.run engine = (.ok between, middle) ∧
        ((next between).run middle).1 = .error failure := by
  rw [run_bind] at failed
  rcases run : first.run engine with ⟨result, middle⟩
  rw [run] at failed
  cases result with
  | error other =>
    cases failed
    exact .inl rfl
  | ok between => exact .inr ⟨between, middle, rfl, failed⟩

/-- Steps in a row run alike if the first ones do, and those after them where these succeed. -/
theorem run_bind_congr {first first' : EngineM α} {next next' : α → EngineM β} {engine : Engine}
    (same : first.run engine = first'.run engine)
    (after : ∀ value later, first.run engine = (.ok value, later) →
      (next value).run later = (next' value).run later) :
    (first >>= next).run engine = (first' >>= next').run engine := by
  rw [run_bind, run_bind, ← same]
  rcases run : first.run engine with ⟨result, later⟩
  cases result with
  | error failure => rfl
  | ok value => exact after value later run

/-- Steps in a row only load templates and run probes if each of them does. -/
theorem succeeds_bind {start engine : Engine} {first : EngineM α} {next : α → EngineM β}
    (succeeds : start.Succeeds (first.run engine).2)
    (after : ∀ value later, start.Succeeds later → start.Succeeds ((next value).run later).2) :
    start.Succeeds ((first >>= next).run engine).2 := by
  rw [run_bind]
  rcases run : first.run engine with ⟨result, later⟩
  rw [run] at succeeds
  cases result with
  | error failure => exact succeeds
  | ok value => exact after value later succeeds

/-- Gathers names from the template of a name, if there is one. -/
def gatherFrom (run : Template → EngineM (List String)) (name : String) :
    EngineM (List String) := do
  match ← load name with
  | none => return []
  | some template => run template

/-- Gathers names from the templates of some names, one after the other. -/
def gatherInTurn (run : Template → EngineM (List String)) : List String → EngineM (List String)
  | [] => return []
  | name :: rest => do
    let first ← gatherFrom run name
    let others ← gatherInTurn run rest
    return first ++ others

/-- Gathering from names and then from others is gathering from all of them. -/
theorem gatherInTurn_append (run : Template → EngineM (List String)) (front back : List String) :
    gatherInTurn run (front ++ back) = (do
      let first ← gatherInTurn run front
      let others ← gatherInTurn run back
      return first ++ others) := by
  induction front with
  | nil => simp [gatherInTurn]
  | cons name rest induction =>
    simp only [List.cons_append, gatherInTurn, induction, bind_assoc, pure_bind, List.append_assoc]

end EngineM

/-- The survey that has seen some names and gathered others, which may have come up repeatedly. -/
def Survey.of (seen fired : List String) : Survey :=
  ⟨seen, fired.eraseDups⟩

/-- More names are gathered with those before. -/
theorem Survey.of_gather (seen fired names : List String) :
    (Survey.of seen fired).gather names = .of seen (fired ++ names) :=
  congrArg (Survey.mk seen) (eraseDups_append_eraseDups fired names)

/-- A way to gather names from templates only loads templates and runs probes, also when it
fails. -/
def Engine.KeptBy (start : Engine) (run : Template → EngineM (List String)) : Prop :=
  ∀ template engine, start.Succeeds engine → start.Succeeds ((run template).run engine).2

namespace EngineM

variable {start : Engine} {run : Template → EngineM (List String)}
  (closed : start.store.IsClosed start.sources) (kept : start.KeptBy run)

include closed

/-- Without files, a name is loaded from everywhere in the same way. -/
theorem loadFrom_closed {engine : Engine} (succeeds : start.Succeeds engine) (name : String) :
    ∃ later, start.Succeeds later ∧
      ∀ base, (loadFrom base name).run engine = (.ok (start.store.get? name), later) := by
  obtain ⟨later, loaded, succeedsLater⟩ :=
    loadFrom_run closed.isSettled succeeds (closed.load name none)
  refine ⟨later, succeedsLater, fun base => ?_⟩
  have isEmpty : engine.sources.IsEmpty := by
    rw [succeeds.settings]
    exact closed.isEmpty
  rw [← loaded]
  simp only [loadFrom, onStore_run, isEmpty.load_eq engine.store name base none]

/-- Gathering from a name is gathering from the template that is kept under it, if there is one. -/
theorem gatherFrom_closed (run : Template → EngineM (List String)) {engine : Engine}
    (succeeds : start.Succeeds engine) (name : String) :
    ∃ later, start.Succeeds later ∧
      (gatherFrom run name).run engine =
        match start.store.get? name with
        | none => (.ok [], later)
        | some template => (run template).run later := by
  obtain ⟨later, succeedsLater, loaded⟩ := loadFrom_closed closed succeeds name
  refine ⟨later, succeedsLater, ?_⟩
  rw [gatherFrom, load, run_bind_ok (loaded none)]
  cases start.store.get? name <;> rfl

include kept

/-- Gathering from a name only loads templates and runs probes. -/
theorem gatherFrom_succeeds {engine : Engine} (succeeds : start.Succeeds engine) (name : String) :
    start.Succeeds ((gatherFrom run name).run engine).2 := by
  obtain ⟨later, succeedsLater, gathered⟩ := gatherFrom_closed closed run succeeds name
  rw [gathered]
  cases start.store.get? name with
  | none => exact succeedsLater
  | some template => exact kept template later succeedsLater

/-- Gathering from names in turn only loads templates and runs probes. -/
theorem gatherInTurn_succeeds {engine : Engine} (succeeds : start.Succeeds engine)
    (names : List String) : start.Succeeds ((gatherInTurn run names).run engine).2 := by
  induction names generalizing engine with
  | nil => exact succeeds
  | cons name rest induction =>
    refine succeeds_bind (gatherFrom_succeeds closed kept succeeds name) fun found later keeps => ?_
    exact succeeds_bind (induction keeps) fun _ _ => id

/-- Visiting a new name, and then the names in its template in the order of a walk, is gathering
from all of these in turn. -/
theorem visit_new {seen inside fired : List String} {name : String} (isNew : name ∉ seen)
    {bound : Nat} {base : Option FilePath} {engine : Engine} (succeeds : start.Succeeds engine)
    (walks : start.store.Walks (name :: seen) (start.store.partialNames name) inside)
    (partials : ∀ fired base engine, start.Succeeds engine →
      ((start.store.partialNames name).foldlM (visit run bound base)
          (.of (name :: seen) fired)).run engine =
        (gatherInTurn run inside >>= fun found => pure
          (Survey.of (inside.reverse ++ name :: seen) (fired ++ found)) : EngineM Survey).run
            engine) :
    (visit run (bound + 1) base (.of seen fired) name).run engine =
      (gatherInTurn run (name :: inside) >>= fun found => pure
        (Survey.of (inside.reverse ++ name :: seen) (fired ++ found)) : EngineM Survey).run
          engine := by
  obtain ⟨later, succeedsLater, loaded⟩ := loadFrom_closed closed succeeds name
  have unseen : ¬ (Survey.of seen fired).seen.contains name = true :=
    fun contains => isNew (List.contains_iff_mem.mp contains)
  unfold visit
  rw [if_neg unseen, gatherInTurn, gatherFrom, load]
  simp only [bind_assoc, pure_bind]
  rw [run_bind_ok (loaded base), run_bind_ok (loaded none)]
  unfold Store.partialNames at walks partials
  cases found : start.store.get? name with
  | none =>
    rw [found] at walks
    cases walks
    simp [gatherInTurn, Survey.of]
  | some template =>
    rw [found] at partials
    refine run_bind_congr rfl fun names after ran => ?_
    have succeedsAfter : start.Succeeds after := by
      have keeps := kept template later succeedsLater
      rwa [ran] at keeps
    have more := Survey.of_gather (name :: seen) fired names
    have gathered := partials (fired ++ names) template.directory? after succeedsAfter
    simp only [← more, List.append_assoc] at gathered
    exact gathered

/-- Visiting names in the order of a walk is gathering from the names that are visited in turn, if
the bound allows for all names that have not been seen. -/
theorem foldlM_visit_eq {starts seen list order : List String}
    (walks : start.store.Walks seen list order) (fired : List String)
    (known : list ⊆ Store.askable starts start.store.templates.values) {bound : Nat}
    (enough : Survey.unseen (Store.askable starts start.store.templates.values) { seen } < bound)
    (base : Option FilePath) {engine : Engine} (succeeds : start.Succeeds engine) :
    (list.foldlM (visit run bound base) (.of seen fired)).run engine =
      (gatherInTurn run order >>= fun found => pure
        (Survey.of (order.reverse ++ seen) (fired ++ found)) : EngineM Survey).run engine := by
  induction walks generalizing fired bound base engine with
  | done seen => simp [gatherInTurn]
  | @old seen rest order name isOld others induction =>
    obtain ⟨-, known⟩ := List.cons_subset.mp known
    have visited : (visit run bound base (.of seen fired) name).run engine =
        (.ok (.of seen fired), engine) := by
      obtain ⟨bound, rfl⟩ := Nat.exists_eq_add_one_of_ne_zero (Nat.ne_zero_of_lt enough)
      have isSeen : (Survey.of seen fired).seen.contains name = true :=
        List.contains_iff_mem.mpr isOld
      unfold visit
      rw [if_pos isSeen]
      rfl
    rw [List.foldlM_cons, run_bind_ok visited]
    exact induction fired known enough base succeeds
  | @new seen rest inside order name isNew inner others innerAlike othersAlike =>
    obtain ⟨isKnown, known⟩ := List.cons_subset.mp known
    let askable := Store.askable starts start.store.templates.values
    have less : Survey.unseen askable { seen := name :: seen } < Survey.unseen askable { seen } :=
      Survey.unseen_lt isKnown isNew (List.subset_cons_self _ _) List.mem_cons_self
    have notMore : Survey.unseen askable { seen := inside.reverse ++ name :: seen } ≤
        Survey.unseen askable { seen } :=
      Survey.unseen_le fun other mem => List.mem_append_right _ (List.mem_cons_of_mem _ mem)
    obtain ⟨bound, rfl⟩ := Nat.exists_eq_add_one_of_ne_zero (Nat.ne_zero_of_lt enough)
    have visited : (visit run (bound + 1) base (.of seen fired) name).run engine = _ :=
      visit_new closed kept isNew succeeds inner fun fired base engine succeeds =>
        innerAlike fired (start.store.partialNames_subset_askable starts name)
          (Nat.lt_of_lt_of_le less (Nat.le_of_lt_succ enough)) base succeeds
    have seenThen : (name :: (inside ++ order)).reverse ++ seen =
        order.reverse ++ (inside.reverse ++ name :: seen) := by
      simp
    have turns : gatherInTurn run (name :: (inside ++ order)) = _ :=
      gatherInTurn_append run (name :: inside) order
    rw [List.foldlM_cons, run_bind_congr visited fun _ _ _ => rfl, turns, seenThen]
    simp only [bind_assoc, pure_bind]
    refine run_bind_congr rfl fun found later ran => ?_
    have succeedsLater : start.Succeeds later := by
      have keeps := gatherInTurn_succeeds closed kept succeeds (name :: inside)
      rwa [ran] at keeps
    have visitedOthers := othersAlike (fired ++ found) known
      (Nat.lt_of_le_of_lt notMore enough) base succeedsLater
    simp only [List.append_assoc] at visitedOthers ⊢
    exact visitedOthers

/-- Visiting names, and then the names in their templates, is gathering from the names of a walk in
turn. The bound must allow for all names that can be asked for. -/
theorem visitAll_eq {names order : List String} (walks : start.store.Walks [] names order)
    (enough : (Store.askable names start.store.templates.values).length < start.bound) :
    (visitAll run names).run start =
      (gatherInTurn run order >>= fun found => pure found.eraseDups : EngineM (List String)).run
        start := by
  have least : Survey.unseen (Store.askable names start.store.templates.values) {} < start.bound :=
    Nat.lt_of_le_of_lt (Finset.card_le_card Finset.sdiff_subset |>.trans
      (List.toFinset_card_le _)) enough
  have visited := foldlM_visit_eq closed kept walks [] (List.subset_append_left _ _) least none
    (.refl start)
  change (names.foldlM (visit run start.bound none) (Survey.of [] []) >>= fun survey =>
    (pure survey.gathered : EngineM (List String))).run start = _
  rw [run_bind_congr visited fun _ _ _ => rfl]
  simp only [bind_assoc, pure_bind]
  rfl

/-- What is gathered in turn is what the templates hold that are kept under the names. -/
theorem gatherInTurn_ok {names : Template → List String}
    (values : ∀ engine template found later, start.Succeeds engine →
      (run template).run engine = (.ok found, later) → found = names template)
    {order found : List String} {engine later : Engine} (succeeds : start.Succeeds engine)
    (ran : (gatherInTurn run order).run engine = (.ok found, later)) :
    ∀ name, name ∈ found ↔ ∃ visited ∈ order, ∃ template,
      start.store.get? visited = some template ∧ name ∈ names template := by
  induction order generalizing engine found later with
  | nil =>
    cases ran
    simp
  | cons visited rest induction =>
    obtain ⟨first, middle, gathered, ran⟩ := run_bind_eq_ok ran
    obtain ⟨others, last, ranOthers, ran⟩ := run_bind_eq_ok ran
    cases ran
    have succeedsMiddle : start.Succeeds middle := by
      have keeps := gatherFrom_succeeds closed kept succeeds visited
      rwa [gathered] at keeps
    have ofFirst (name : String) : name ∈ first ↔ ∃ template,
        start.store.get? visited = some template ∧ name ∈ names template := by
      obtain ⟨loaded, succeedsLoaded, same⟩ := gatherFrom_closed closed run succeeds visited
      rw [gathered] at same
      cases isKept : start.store.get? visited with
      | none =>
        rw [isKept] at same
        cases same
        simp
      | some template =>
        rw [isKept] at same
        simp [values loaded template first middle succeedsLoaded same.symm]
    intro name
    simp only [List.mem_append, ofFirst, induction succeedsMiddle ranOthers, List.mem_cons,
      exists_eq_or_imp]

/-- What fails while gathering in turn is what is done with one of the templates. -/
theorem gatherInTurn_error {order : List String} {failure : Failure} {engine : Engine}
    (succeeds : start.Succeeds engine)
    (failed : ((gatherInTurn run order).run engine).1 = .error failure) :
    ∃ visited ∈ order, ∃ template between, start.store.get? visited = some template ∧
      start.Succeeds between ∧ ((run template).run between).1 = .error failure := by
  induction order generalizing engine with
  | nil => cases failed
  | cons visited rest induction =>
    rcases run_bind_eq_error failed with failedFirst | ⟨first, middle, gathered, failedLater⟩
    · obtain ⟨loaded, succeedsLoaded, same⟩ := gatherFrom_closed closed run succeeds visited
      rw [same] at failedFirst
      cases isKept : start.store.get? visited with
      | none =>
        rw [isKept] at failedFirst
        cases failedFirst
      | some template =>
        rw [isKept] at failedFirst
        exact ⟨visited, List.mem_cons_self, template, loaded, isKept, succeedsLoaded, failedFirst⟩
    · have keeps := gatherFrom_succeeds closed kept succeeds visited
      rw [gathered] at keeps
      rcases run_bind_eq_error failedLater with failedOthers | ⟨others, last, -, done⟩
      · obtain ⟨other, mem, found⟩ := induction keeps failedOthers
        exact ⟨other, List.mem_cons_of_mem _ mem, found⟩
      · cases done

end EngineM

/-! ### Probes -/

/-- Whether a helper is a probe. -/
def Helper.isProbe : Helper → Bool
  | .probe _ => true
  | _ => false

/-- The names of the tags of a template that call probes, in their order. -/
def Template.probeNames (helpers : Dict Helper) (template : Template) : List String :=
  (template.allParts.filterMap helperName?).filter fun name =>
    (helpers.get? name).any Helper.isProbe

/-- The probes among some parts are the calls of helpers that are probes. -/
theorem Renderer.probe?_names (renderer : Renderer) (render : BodyRender) (origin : Origin)
    (parts : List Part) :
    (parts.filterMap (renderer.probe? render origin)).map Prod.fst =
      (parts.filterMap Template.helperName?).filter fun name =>
        (renderer.helpers.get? name).any Helper.isProbe := by
  induction parts with
  | nil => rfl
  | cons part rest induction =>
    cases part with
    | element head params main bodies span =>
      cases head with
      | test => exact induction
      | helper name =>
        cases found : renderer.helpers.get? name.name with
        | none => simpa [probe?, Template.helperName?, found] using induction
        | some helper =>
          cases helper <;>
            simpa [probe?, Template.helperName?, found, Helper.isProbe] using induction
    | _ => exact induction

/-- The probes of a template, one after the other. -/
def Engine.reportProbes (engine : Engine) (template : Template) : RenderM Unit :=
  let renderer := engine.renderer { data := .null }
  RenderM.reportAll ((template.allParts.filterMap
    (renderer.probe? (renderer.renderBody engine.bound) ⟨template, 0⟩)).map Prod.snd)

/-- Running the probes of a template runs them one after the other, and answers with their names. -/
theorem EngineM.runProbes_run (template : Template) (engine : Engine) :
    (runProbes template).run engine =
      match (engine.reportProbes template).runFrom
        { root := .null, store := engine.store, reports := engine.reports } with
      | (.ok _, state) =>
        (.ok (template.probeNames engine.helpers),
          { engine with store := state.store, reports := state.reports })
      | (.error halt, state) =>
        (.error (.halt halt), { engine with store := state.store, reports := state.reports }) := by
  let renderer := engine.renderer { data := .null }
  let probes := template.allParts.filterMap
    (renderer.probe? (renderer.renderBody engine.bound) ⟨template, 0⟩)
  have names : probes.map Prod.fst = template.probeNames engine.helpers :=
    renderer.probe?_names _ _ template.allParts
  have looked : (get : EngineM Engine).run engine = (.ok engine, engine) := rfl
  rw [runProbes, run_bind_ok looked]
  change (onRender .null (engine.reportProbes template) >>= fun _ =>
    pure (probes.map Prod.fst) : EngineM (List String)).run engine = _
  rw [run_bind, onRender_run, names]
  rcases (engine.reportProbes template).runFrom _ with ⟨result, state⟩
  cases result <;> rfl

/-- Running probes loads templates only by what the probes render. -/
theorem Engine.keptBy_runProbes (start : Engine)
    (helpers : ∀ name helper, start.helpers.get? name = some helper → helper.LoadsByRendering) :
    start.KeptBy EngineM.runProbes := by
  intro template engine succeeds
  have sources : engine.sources = start.sources := by rw [succeeds.settings]
  have ofEngine : ∀ name helper, engine.helpers.get? name = some helper →
      helper.LoadsByRendering := by
    rw [succeeds.settings]
    exact helpers
  let renderer := engine.renderer { data := .null }
  have renders (context : Context) (body : Body) :
      KeepsStore (start.store.Evolves start.sources)
        (renderer.renderBody engine.bound ⟨template, 0⟩ context body) :=
    Renderer.renderBody_keepsStore (fun store name base evolves =>
      evolves.tail ⟨name, base, by rw [← sources]; rfl⟩) ofEngine _ _ _ _
  have keeps : KeepsStore (start.store.Evolves start.sources) (engine.reportProbes template) :=
    Renderer.reportAll_keepsStore ofEngine renders template.allParts
  have evolves := keeps { root := .null, store := engine.store, reports := engine.reports }
    succeeds.evolves
  rw [EngineM.runProbes_run]
  rcases ran : (engine.reportProbes template).runFrom _ with ⟨result, state⟩
  rw [ran] at evolves
  cases result <;> exact ⟨by rw [succeeds.settings], evolves⟩

namespace EngineM

/-- Runs the probes of the templates of some names, one after the other, and returns the names of
those that have run. -/
def probeInTurn (names : List String) : EngineM (List String) := do
  let fired ← gatherInTurn runProbes names
  return fired.eraseDups

end EngineM

/-- A probe that reports the value of a parameter. -/
def Helper.recorder : Helper :=
  .probe fun call => do return (← call.get? "src").getD .null

/-- Recording the value of a parameter loads what the parameter includes. -/
theorem Helper.loadsByRendering_recorder : recorder.LoadsByRendering := by
  intro kept call renders
  refine ⟨.untouched fun _ => rfl, ?_⟩
  rintro run ⟨⟩
  refine KeepsStore.bind ?_ fun _ => .untouched fun _ => rfl
  have law := KeepsStore.stepLaw kept
  have strings (body : Body) (_ : Quoted call.list body) :
      KeepsStore kept (call.resolve (.interpolated body)) :=
    .bind (.apart (RenderM.quoted_runsApart _) (renders call.context body))
      fun _ => .untouched fun _ => rfl
  exact @CalmLaw.get? _ law.toCalmLaw call.toParams call.render
    (@ReadLaw.resolves _ law.toReadLaw call.toParams call.render strings) "src"

/-- A template that records its own name and includes another one. -/
def Template.recording (own other : String) : Template where
  source := ""
  body :=
    [.element (.helper ⟨"enqueue", default⟩) [⟨⟨"src", default⟩, .literal (.string own)⟩] none []
      default,
      .inclusion (.static other) none [] default]
  blocks := []
  path := none

/-- Two templates that include each other. -/
def recordingEngine : Engine :=
  { engineOf [("left", .recording "left" "right"), ("right", .recording "right" "left")] with
    helpers := [("enqueue", .recorder)] }

namespace EngineM

end EngineM

end Dust
