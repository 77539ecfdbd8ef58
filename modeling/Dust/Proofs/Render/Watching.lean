import Dust.Proofs.Render.EvaluateLaw
import Dust.Proofs.Render.Watch

/-!
# Watched renders tell the truth

A watched render does what the render does that it watches, and its events account for the data and
for the flag of every selection around. An account goes from event to event: an event makes something
of what is accounted for, and tells the truth about it as it is before. What holds along the steps of
a render is that events keep these accounts from the state that a step starts from to the state that
it leaves.
-/

namespace Dust

/-! ### Accounts -/

/-- A way to account for something by events. -/
structure Ledger (σ : Type) where
  /-- What an event makes of it. -/
  next : σ → Event → σ
  /-- An event tells the truth about it. -/
  fits : σ → Event → Prop

namespace Ledger

variable {σ : Type} (ledger : Ledger σ)

/-- Events account for the way from a start to a finish. -/
def Follows : σ → List Event → σ → Prop
  | start, [], finish => finish = start
  | start, event :: rest, finish =>
    ledger.fits start event ∧ Follows (ledger.next start event) rest finish

/-- What events make of something. -/
def replay (start : σ) (events : List Event) : σ :=
  events.foldl ledger.next start

variable {ledger} {start middle finish : σ} {events more : List Event}

/-- Accounts are continued. -/
theorem Follows.append (first : ledger.Follows start events middle)
    (second : ledger.Follows middle more finish) :
    ledger.Follows start (events ++ more) finish := by
  induction events generalizing start with
  | nil =>
    cases first
    exact second
  | cons event rest induction => exact ⟨first.1, induction first.2⟩

/-- The finish is what all events make of the start. -/
theorem Follows.finish_eq (follows : ledger.Follows start events finish) :
    finish = ledger.replay start events := by
  induction events generalizing start with
  | nil => exact follows
  | cons event rest induction => exact induction follows.2

/-- Every event tells the truth about what the events before it have made of the start. -/
theorem Follows.fits_getElem? (follows : ledger.Follows start events finish) {n : Nat}
    {event : Event} (isEvent : events[n]? = some event) :
    ledger.fits (ledger.replay start (events.take n)) event := by
  induction events generalizing start n with
  | nil => cases isEvent
  | cons first rest induction =>
    cases n with
    | zero =>
      cases isEvent
      exact follows.1
    | succ n => exact induction follows.2 isEvent

end Ledger

/-- The data with another entry under a key, or with none, if they have entries that can be
changed. -/
def Value.edit (root : Value) (key : String) (entry : Option Value) : Value :=
  match root.entries? with
  | some entries => .map (entries.put key entry)
  | none => root

/-- The account of the data. Only edits change them, and only data with entries are edited. -/
def dataLedger : Ledger Value where
  next root
    | .edited key entry => root.edit key entry
    | _ => root
  fits root
    | .reached seen _ => seen = root
    | .edited _ _ => root.entries? ≠ none
    | _ => True

/-- The account of the flag at a place. It is set by a comparison that passes, and never reset. -/
def flagLedger (place : Nat) : Ledger Bool where
  next isMatched
    | .compared flag passes _ => if flag = place then isMatched || passes else isMatched
    | _ => isMatched
  fits isMatched
    | .reached _ flags => flags[place]? = some isMatched
    | .compared flag passes choice => flag = place → choice = .after isMatched passes
    | .asked flag wants shown => flag = place → shown = (isMatched == wants)
    | .edited _ _ => True

/-- Events account for what a step makes of a state: for the data, and for all flags that are there
before. -/
structure Accounts (state later : RenderState) (events : List Event) : Prop where
  /-- The data are accounted for. -/
  data : dataLedger.Follows state.root events later.root
  /-- The flags are accounted for. -/
  flags : ∀ place before, state.flags[place]? = some before →
    ∃ after, later.flags[place]? = some after ∧ (flagLedger place).Follows before events after

/-- Nothing happens as long as the data and the flags stay. -/
theorem Accounts.of_same {state later : RenderState} (root : later.root = state.root)
    (flags : later.flags = state.flags) : Accounts state later [] where
  data := root
  flags place before isFlag := ⟨before, by rw [flags, isFlag], rfl⟩

/-- Accounts are continued. -/
theorem Accounts.trans {state middle later : RenderState} {events more : List Event}
    (first : Accounts state middle events) (second : Accounts middle later more) :
    Accounts state later (events ++ more) where
  data := first.data.append second.data
  flags place before isFlag := by
    obtain ⟨between, isBetween, follows⟩ := first.flags place before isFlag
    obtain ⟨after, isAfter, continues⟩ := second.flags place between isBetween
    exact ⟨after, isAfter, follows.append continues⟩

/-! ### Watched steps -/

/-- A step watches another one: it ends as the other one does, and reports events besides which
account for what the other one makes of the state. -/
def Watches : StepRel := fun step watched =>
  ∀ state reports, ∃ events,
    watched.runFrom { state with reports } =
        ((step.runFrom state).1,
          { (step.runFrom state).2 with reports := reports ++ events.map Event.toValue }) ∧
      Accounts state (step.runFrom state).2 events

/-- What a watched step reports are events that account for what the step makes of the state. -/
theorem Watches.accounts {α : Type} {step watched : RenderM α} (watches : Watches step watched)
    (state : RenderState) :
    step.IsWatched watched state ∧
      Accounts state (step.runFrom state).2 (watched.eventsFrom state) := by
  obtain ⟨events, same, accounts⟩ := watches state []
  have events_eq : watched.eventsFrom state = events := by
    rw [RenderM.eventsFrom, same]
    exact RenderState.events_map_toValue _ events
  unfold RenderM.IsWatched
  rw [events_eq]
  exact ⟨same, accounts⟩

namespace Watches

variable {α β : Type}

/-- A step that leaves the data, the flags and the reports alone watches itself. -/
theorem untouched {step : RenderM α} (result : RenderState → Except Halt α)
    (edit : RenderState → RenderState)
    (runs : ∀ state, step.runFrom state = (result state, edit state))
    (sameResult : ∀ state reports, result { state with reports } = result state)
    (sameEdit : ∀ state reports, edit { state with reports } = { edit state with reports })
    (root : ∀ state, (edit state).root = state.root)
    (flags : ∀ state, (edit state).flags = state.flags) : Watches step step := by
  intro state reports
  refine ⟨[], ?_, ?_⟩
  · rw [runs, runs, sameResult, sameEdit]
    simp
  · rw [runs]
    exact .of_same (root state) (flags state)

/-- Doing nothing watches itself. -/
theorem pure (value : α) : Watches (Pure.pure value : RenderM α) (Pure.pure value) :=
  .untouched (fun _ => .ok value) id (fun _ => rfl) (fun _ _ => rfl) (fun _ _ => rfl) (fun _ => rfl)
    fun _ => rfl

/-- Coming to a halt watches itself. -/
theorem halt (halt : Halt) : Watches (throw halt : RenderM α) (throw halt) :=
  .untouched (fun _ => .error halt) id (fun _ => rfl) (fun _ _ => rfl) (fun _ _ => rfl)
    (fun _ => rfl) fun _ => rfl

/-- Looking at the data and the flags watches itself. -/
theorem read (view : Value → List Bool → α) :
    Watches (do let state ← get; return view state.root state.flags)
      (do let state ← get; return view state.root state.flags) :=
  .untouched (fun state => .ok (view state.root state.flags)) id (fun _ => rfl) (fun _ _ => rfl)
    (fun _ _ => rfl) (fun _ => rfl) fun _ => rfl

/-- Writing text watches itself. -/
theorem write (text : String) : Watches (RenderM.write text) (RenderM.write text) :=
  .untouched (fun _ => .ok ()) (fun state => { state with output := state.output.write text })
    (fun _ => rfl) (fun _ _ => rfl) (fun _ _ => rfl) (fun _ => rfl) fun _ => rfl

/-- Noting an error watches itself. -/
theorem noteError (error : Option Error) :
    Watches (RenderM.noteError error) (RenderM.noteError error) :=
  .untouched (fun _ => .ok ()) (fun state => { state with output := state.output.withError error })
    (fun _ => rfl) (fun _ _ => rfl) (fun _ _ => rfl) (fun _ => rfl) fun _ => rfl

/-- Changing the store watches itself. -/
theorem withStore (step : Store → α × Store) :
    Watches (RenderM.withStore step) (RenderM.withStore step) :=
  .untouched (fun state => .ok (step state.store).1)
    (fun state => { state with store := (step state.store).2 }) (fun _ => rfl) (fun _ _ => rfl)
    (fun _ _ => rfl) (fun _ => rfl) fun _ => rfl

/-- Watched steps in a row watch steps in a row. -/
theorem bind {first first' : RenderM α} {next next' : α → RenderM β}
    (watches : Watches first first') (after : ∀ value, Watches (next value) (next' value)) :
    Watches (first >>= next) (first' >>= next') := by
  intro state reports
  obtain ⟨events, same, accounts⟩ := watches state reports
  rw [RenderM.runFrom_bind, RenderM.runFrom_bind, same]
  rcases ends : first.runFrom state with ⟨result, middle⟩
  rw [ends] at accounts
  cases result with
  | error halt => exact ⟨events, rfl, accounts⟩
  | ok value =>
    obtain ⟨more, continues, account⟩ := after value middle (reports ++ events.map Event.toValue)
    refine ⟨events ++ more, ?_, accounts.trans account⟩
    simp only [continues, List.map_append, List.append_assoc]

/-- A body with an output of its own is watched like the body. -/
theorem apart {wrapped wrapped' : RenderM α} {step step' : RenderM Unit} {value : Output → α}
    {shown : Output → Output} {aside : Output → Option Error}
    (runs : RenderM.RunsApart wrapped step value shown aside)
    (runs' : RenderM.RunsApart wrapped' step' value shown aside) (watches : Watches step step') :
    Watches wrapped wrapped' := by
  intro state reports
  obtain ⟨events, same, accounts⟩ := watches { state with output := {} } reports
  rw [runs, runs', same]
  rcases ends : step.runFrom { state with output := {} } with ⟨result, later⟩
  rw [ends] at accounts
  cases result with
  | error halt => exact ⟨events, rfl, accounts.data, accounts.flags⟩
  | ok done => exact ⟨events, rfl, accounts.data, accounts.flags⟩

/-- Gathering the errors of strings is watched like what gathers them. -/
theorem gathered {step step' : RenderM α} (watches : Watches step step') :
    Watches (RenderM.gathered step) (RenderM.gathered step') := by
  intro state reports
  obtain ⟨events, same, accounts⟩ := watches { state with pending := none } reports
  rw [RenderM.runFrom_gathered, RenderM.runFrom_gathered, same]
  rcases ends : step.runFrom { state with pending := none } with ⟨result, later⟩
  rw [ends] at accounts
  cases result with
  | error halt => exact ⟨events, rfl, accounts.data, accounts.flags⟩
  | ok done => exact ⟨events, rfl, accounts.data, accounts.flags⟩

/-- A step with a new flag is watched like the step, whose account of the new flag is dropped. -/
theorem withFlag {step step' : Nat → RenderM Unit}
    (watches : ∀ flag, Watches (step flag) (step' flag)) :
    Watches (RenderM.withFlag step) (RenderM.withFlag step') := by
  intro state reports
  obtain ⟨events, same, accounts⟩ :=
    watches state.flags.length { state with flags := state.flags ++ [false] } reports
  rw [RenderM.runFrom_withFlag, RenderM.runFrom_withFlag, same]
  rcases ends : (step state.flags.length).runFrom { state with flags := state.flags ++ [false] }
    with ⟨result, later⟩
  rw [ends] at accounts
  have around (place : Nat) (before : Bool) (isFlag : state.flags[place]? = some before) :
      place < state.flags.length ∧ ∃ after, later.flags[place]? = some after ∧
        (flagLedger place).Follows before events after := by
    obtain ⟨inside, -⟩ := List.getElem?_eq_some_iff.mp isFlag
    refine ⟨inside, accounts.flags place before ?_⟩
    rw [List.getElem?_append_left inside, isFlag]
  cases result with
  | error halt => exact ⟨events, rfl, accounts.data, fun place before isFlag =>
      (around place before isFlag).2⟩
  | ok done =>
    refine ⟨events, rfl, accounts.data, fun place before isFlag => ?_⟩
    obtain ⟨inside, after, isAfter, follows⟩ := around place before isFlag
    refine ⟨after, ?_, follows⟩
    rw [List.getElem?_take_of_lt inside, isAfter]

/-- Nothing is asked of the templates that a watched render loads. -/
def anyLoads : Loads := fun _ _ _ => True

/-- All steps of the evaluator that leave the data and the flags alone watch themselves. -/
theorem readLaw : ReadLaw Watches where
  pure := .pure
  bind := .bind
  overflow := .halt .overflow
  write := .write
  withFlag := .withFlag
  read := .read

/-- The evaluator is watched step by step. -/
theorem renderFlowLaw (sources : Sources) :
    RenderFlowLaw sources anyLoads Watches Watches Watches :=
  have output : OutputLaw sources anyLoads Watches :=
    { apart := .apart
      gathered := .gathered
      loaded := fun after => .bind (.withStore _) fun result => after result fun _ _ => trivial
      raise := fun _ _ _ => .noteError _ }
  output.renderFlowLaw readLaw.toCalmLaw

/-! ### Reports -/

/-- An event that tells the truth where it is reported watches a step. -/
theorem reportReached : Watches (Pure.pure () : RenderM Unit) RenderM.reportReached := by
  intro state reports
  refine ⟨[.reached state.root state.flags], rfl, ⟨rfl, rfl⟩, fun place before isFlag => ?_⟩
  exact ⟨before, isFlag, isFlag, rfl⟩

/-- What is watched may report the data and the flags first. -/
theorem afterReached {step step' : RenderM α} (watches : Watches step step') :
    Watches step (do RenderM.reportReached; step') := by
  change Watches (Pure.pure () >>= fun _ => step) (RenderM.reportReached >>= fun _ => step')
  exact bind reportReached fun _ => watches

/-- Asking for a match is watched by asking with a report. -/
theorem watchResolved (selection : Selection) (wants : Bool) :
    Watches (RenderM.isResolved selection) (Helper.watchResolved selection wants) := by
  intro state reports
  refine ⟨[.asked selection.flag wants (state.flags.getD selection.flag false = wants)], rfl,
    ⟨trivial, rfl⟩, fun place before isFlag => ⟨before, isFlag, ?_, rfl⟩⟩
  rintro rfl
  rw [List.getD_eq_getElem?_getD, isFlag, Option.getD_some]
  cases before <;> cases wants <;> rfl

/-- Choosing is watched by choosing with a report. -/
theorem watchChoose (selection : Selection) (passes : Bool) :
    Watches (Helper.choose selection passes) (Helper.watchChoose selection passes) := by
  intro state reports
  let isMatched := state.flags.getD selection.flag false
  refine ⟨[.compared selection.flag passes (.after isMatched passes)], ?_, ?_, ?_⟩
  · unfold Helper.watchChoose
    rw [RenderM.runFrom_bind, Helper.choose_runFrom, Helper.choose_runFrom]
    rfl
  · rw [Helper.choose_runFrom]
    exact ⟨trivial, rfl⟩
  · intro place before isFlag
    rw [Helper.choose_runFrom]
    by_cases own : selection.flag = place
    · subst own
      have same : isMatched = before := by
        change state.flags.getD selection.flag false = before
        rw [List.getD_eq_getElem?_getD, isFlag, Option.getD_some]
      obtain ⟨inside, -⟩ := List.getElem?_eq_some_iff.mp isFlag
      refine ⟨before || passes, ?_, fun _ => by rw [same], (if_pos rfl).symm⟩
      simp only [show state.flags.getD selection.flag false = before from same]
      cases before with
      | true => exact isFlag
      | false =>
        cases passes with
        | false => exact isFlag
        | true => exact List.getElem?_set_self inside
    · refine ⟨before, ?_, fun isOwn => absurd isOwn own, (if_neg own).symm⟩
      simp only
      split
      · rw [List.getElem?_set_ne own, isFlag]
      · exact isFlag

/-- Making a change is watched by making it with a report. -/
theorem watchPerform (change : Helper.Change) :
    Watches change.perform.run (Helper.watchPerform change).run := by
  intro state reports
  unfold Helper.watchPerform
  rw [RenderM.runFrom_liftBind, change.perform_runFrom]
  cases found : state.root.entries? with
  | none =>
    have silent : (Helper.reportChange change).runFrom { state with reports } =
        (.ok (), { state with reports }) := by
      unfold Helper.reportChange
      rw [RenderM.runFrom_bind, RenderM.runFrom_get]
      simp only [found]
      rfl
    refine ⟨[], ?_, .of_same rfl rfl⟩
    rw [silent]
    simp [change.perform_runFrom, found]
  | some entries =>
    have reported : (Helper.reportChange change).runFrom { state with reports } =
        (.ok (), { state with
          reports := reports ++ [(Event.edited change.key (change.entry entries)).toValue] }) := by
      unfold Helper.reportChange
      rw [RenderM.runFrom_bind, RenderM.runFrom_get]
      simp only [found]
      rfl
    refine ⟨[.edited change.key (change.entry entries)], ?_, ?_, fun place before isFlag =>
      ⟨before, isFlag, trivial, rfl⟩⟩
    · rw [reported]
      simp [change.perform_runFrom, found]
    · have edits : state.root.edit change.key (change.entry entries) =
          .map (entries.put change.key (change.entry entries)) := by
        rw [Value.edit, found]
      exact ⟨by simp [dataLedger, found], edits.symm⟩

end Watches

/-! ### Watched helpers -/

/-- Running a helper that is always there is watched by running what watches it, if the strings and
bodies of the call are watched. -/
theorem Watches.runHelper {call : Call} {render : Context → Body → RenderM Unit}
    (renders : ∀ context body, Watches (call.render context body) (render context body))
    {name : String} {helper : Helper} (builtin : (name, helper) ∈ Helper.builtins) :
    Watches (Renderer.runHelper call helper)
      (Renderer.runHelper (call.withRender render) (helper.watch name)) := by
  have law := Watches.readLaw
  have strings (body : Body) (_ : Quoted call.list body) :
      Watches (call.resolve (.interpolated body))
        ((call.withRender render).resolve (.interpolated body)) :=
    .bind (.apart (RenderM.quoted_runsApart _) (RenderM.quoted_runsApart _)
      (renders call.context body)) fun value => .pure (some value)
  have resolves := law.resolves strings
  have bodies (frames : Context) (body : Body) (_ : ∀ frame ∈ frames, frame.IsPlain)
      (_ : call.Holds body) := renders (frames ++ call.context) body
  cases Helper.builtin_cases builtin with
  | @comparison _ test named =>
    unfold Helper.watch
    rw [Helper.comparison_eq, named]
    exact law.comparisonBy_run resolves bodies watchChoose test
  | any =>
    rw [Helper.whenResolved_eq]
    exact law.whenResolvedBy_run bodies watchResolved _ _
  | none =>
    rw [Helper.whenResolved_eq]
    exact law.whenResolvedBy_run bodies watchResolved _ _
  | default =>
    rw [Helper.default_eq]
    exact law.defaultBy_run resolves bodies watchResolved
  | set =>
    rw [Helper.set_eq]
    exact law.setBy_run resolves watchPerform _
  | unset =>
    rw [Helper.unset_eq]
    exact law.unsetBy_run resolves watchPerform _
  -- the other helpers have nothing to report, and watch themselves
  | select => exact law.select_run resolves bodies
  | math => exact law.math_run resolves bodies
  | first => exact law.whenPlaced_run bodies _
  | last => exact law.whenPlaced_run bodies _
  | separator => exact law.separator_run resolves bodies
  | condition => exact law.condition_run resolves bodies
  | size => exact law.size_run resolves
  | look => exact law.look_run resolves
  | contextDump => exact law.contextDump_run resolves

/-! ### Watched renders -/

namespace Renderer

variable {renderer : Renderer}
  (builtin : ∀ name helper, renderer.helpers.get? name = some helper →
    (name, helper) ∈ Helper.builtins)

/-- The helper of a name in a watched render is what watches the helper of the name. -/
theorem watched_get? (renderer : Renderer) (name : String) :
    renderer.watched.helpers.get? name =
      (renderer.helpers.get? name).map fun helper => helper.watch name :=
  renderer.helpers.get?_map (fun name helper => helper.watch name) name

/-- A part that calls no helper is rendered as in a render that is not watched. -/
theorem renderPart_watched (renderer : Renderer) (render : BodyRender) (origin : Origin)
    (context : Context) {part : Part}
    (noCall : ∀ name list main bodies span, part ≠ .element (.helper name) list main bodies span) :
    renderer.watched.renderPart render origin context part =
      renderer.renderPart render origin context part := by
  match part with
  | .text _ | .comment _ | .reference _ _ _ | .block _ _ | .inclusion _ _ _ _ => rfl
  | .element (.test _ _) _ _ _ _ => rfl
  | .element (.helper name) list main bodies span => exact absurd rfl (noCall _ _ _ _ _)

variable {render render' : BodyRender}
  (renders : ∀ origin context body,
    Watches (render origin context body) (render' origin context body))

include builtin renders

/-- Rendering a call of a helper is watched if all bodies are. -/
theorem renderHelper_watches (origin : Origin) (context : Context) (name : Identifier)
    (list : List Param) (main : Option Body) (bodies : Dict Body) (span : Span) :
    Watches (renderer.renderHelper render origin context name list main bodies span)
      (renderer.watched.renderHelper render' origin context name list main bodies span) := by
  unfold renderHelper
  rw [watched_get?]
  cases found : renderer.helpers.get? name.name with
  | none => exact .noteError _
  | some helper =>
    let call : Call := { renderer.params render origin context list with
      main, bodies, filters := renderer.filters }
    refine .bind (.gathered ?_) fun outcome => ?_
    · exact @Watches.runHelper call (render' origin) (renders origin) _ _
        (builtin name.name helper found)
    · cases outcome with
      | ok _ => exact .pure _
      | error fault => exact .noteError _

/-- Rendering a part is watched if all bodies are. -/
theorem renderPart_watches (origin : Origin) (context : Context) (part : Part) :
    Watches (renderer.renderPart render origin context part)
      (renderer.watched.renderPart render' origin context part) := by
  by_cases isCall : ∃ name list main bodies span,
      part = .element (.helper name) list main bodies span
  · obtain ⟨name, list, main, bodies, span, rfl⟩ := isCall
    exact renderHelper_watches builtin renders origin context name list main bodies span
  · have noCall name list main bodies span
        (same : part = .element (.helper name) list main bodies span) : False :=
      isCall ⟨name, list, main, bodies, span, same⟩
    rw [renderPart_watched renderer render' origin context noCall]
    let site : Site := ⟨origin, context, [part]⟩
    have law := Watches.readLaw
    have looks (part : Part) (_ : part ∈ site.body) (path : Path) (_ : part.LooksUp path) :
        Watches (renderer.lookUp site.context path) (renderer.lookUp site.context path) ∧
          Watches (renderer.lookUp site.context path) (renderer.lookUp site.context path) :=
      have look := law.read fun root _ => site.context.get? ⟨root, renderer.globals⟩ path
      ⟨look, look⟩
    exact @RenderFlowLaw.renderPart renderer _ _ _ _ (Watches.renderFlowLaw renderer.sources) render
      render' site (fun inner _ => renders _ _ _) looks part List.mem_cons_self
      fun name list main bodies span same => absurd same (noCall name list main bodies span)

/-- Rendering parts is watched if all bodies are. -/
theorem renderParts_watches (origin : Origin) (context : Context) (body : Body) :
    Watches (renderer.renderParts render origin context body)
      (renderer.watchedParts render' origin context body) := by
  induction body with
  | nil => exact .reportReached
  | cons part rest induction =>
    exact .afterReached
      (.bind (renderPart_watches builtin renders origin context part) fun _ => induction)

omit renders

/-- Rendering a body is watched. -/
theorem renderBody_watches (bound : Nat) (origin : Origin) (context : Context) (body : Body) :
    Watches (renderer.renderBody bound origin context body)
      (renderer.watchedBody bound origin context body) := by
  induction bound generalizing origin context body with
  | zero => exact .halt .exhausted
  | succ bound induction => exact renderParts_watches builtin induction origin context body

end Renderer

end Dust
