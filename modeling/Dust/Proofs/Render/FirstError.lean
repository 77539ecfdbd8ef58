import Dust.Proofs.Render.Tracking

/-!
# The first error

A render reports the error that is raised first, unless a string among the parameters of a helper
raises it and what this helper renders raises another one: the errors of strings are noted after the
helper is done, and so after the errors of what it renders.
-/

namespace Dust

/-- Not both a string and what is rendered have raised an error when a step ends while errors are
gathered. -/
def Undisplaced {α : Type} (step : RenderM α) (state : RenderState) : Prop :=
  ∀ value inner, step.runFrom { state with pending := none } = (.ok value, inner) →
    inner.pending = none ∨ inner.output.error = none

/-- Gathering the errors of strings in the course of a helper goes with gathering them strictly,
unless an error is displaced. -/
theorem Tracks.gatheredInside {α : Type} {step step' : RenderM α}
    (tracks : Tracks .either Tracking.either.clean step step') {state : RenderState} {value : α}
    {later : RenderState} (ends : (RenderM.gathered step).runFrom state = (.ok value, later)) :
    Tracking.written.Kept state later ∧
      (Tracking.written.clean state → Undisplaced step state →
        Tracking.written.Matches Tracking.written.clean value later
          ((RenderM.gathered step').runFrom state)) := by
  obtain ⟨inner, run, rfl⟩ := RenderM.runFrom_gathered_ok ends
  obtain ⟨⟨kept, -⟩, goesWith⟩ := tracks _ value inner run
  refine ⟨⟨rfl, kept.or_right _⟩, fun clean undisplaced => ?_⟩
  rw [RenderM.runFrom_gathered]
  rcases goesWith ⟨clean, rfl⟩ with ⟨same, noError, noPending⟩ | ⟨halt, stopped, stops, holds⟩
  · rw [same]
    exact .inl ⟨rfl, congrArg₂ Option.or noError noPending⟩
  · rw [stops]
    refine .inr ⟨halt, stopped, rfl, fun raised isRaised => ?_⟩
    change HoldsError (inner.output.error.or inner.pending) raised
    rcases undisplaced value inner run with noPending | noError
    · rw [noPending, Option.or_none]
      refine (holds raised isRaised).resolve_right fun pending => ?_
      obtain ⟨_, isSome, -⟩ := pending
      rw [noPending] at isSome
      cases isSome
    · rw [noError, Option.none_or]
      refine (holds raised isRaised).resolve_left fun written => ?_
      obtain ⟨_, isSome, -⟩ := written
      rw [noError] at isSome
      cases isSome

/-- A strict render of a part goes with a render of it, unless an error is displaced. -/
def TracksPart (renderer : Renderer) (render render' : BodyRender) (origin : Origin)
    (context : Context) (part : Part) : Prop :=
  ∀ state later, (renderer.renderPart render origin context part).runFrom state = (.ok (), later) →
    Tracking.written.Kept state later ∧
      (Tracking.written.clean state → renderer.displaces render origin context part state = false →
        Tracking.written.Matches (fun _ => True) () later
          ((renderer.renderPart render' origin context part).runFrom state))

namespace TracksPart

variable {renderer : Renderer} {render render' : BodyRender} {site : Site}
  (entered : ∀ inner, site.Enters renderer.maxDepth (fun _ _ _ => True) inner →
    Tracks .written Tracking.written.clean (render inner.origin inner.context inner.body)
      (render' inner.origin inner.context inner.body))

include entered

/-- A strict call of a helper goes with a call of it, unless an error is displaced. -/
theorem helper {name : Identifier} {list : List Param} {main : Option Body} {bodies : Dict Body}
    {span : Span} (mem : Part.element (.helper name) list main bodies span ∈ site.body)
    (builtin : ∀ helper, renderer.helpers.get? name.name = some helper →
      ∃ known, (known, helper) ∈ Helper.builtins) :
    TracksPart renderer render render' site.origin site.context
      (.element (.helper name) list main bodies span) := by
  intro state later ends
  unfold Renderer.displaces
  change (renderer.renderHelper render site.origin site.context name list main bodies span).runFrom
    state = _ at ends
  change _ ∧ (_ → _ → Tracking.Matches _ _ _ _
    ((renderer.renderHelper render' site.origin site.context name list main bodies span).runFrom
      state))
  unfold Renderer.renderHelper at ends ⊢
  cases found : renderer.helpers.get? name.name with
  | none =>
    rw [found] at ends
    have raised := (Tracks.renderLaw renderer.sources).raise site.origin
      (.ofRender (.unknownHelper name.name)) name.span state () later ends
    exact ⟨raised.1, fun clean _ => raised.2 clean⟩
  | some helper =>
    rw [found] at ends
    obtain ⟨known, builtin⟩ := builtin helper found
    obtain ⟨result, middle, gathers, finishes⟩ := RenderM.runFrom_bind_ok ends
    obtain ⟨keptMiddle, goesWith⟩ :=
      (Tracks.callLaw.runHelper entered mem builtin).gatheredInside gathers
    have finish := (Tracks.renderLaw renderer.sources).noteOutcome site.origin span result
    obtain ⟨keptLater, finishesWith⟩ := finish middle () later finishes
    refine ⟨Tracking.written.trans keptMiddle keptLater, fun clean undisplaced => ?_⟩
    have calm : Undisplaced
        (Renderer.runHelper { renderer.params render site.origin site.context list with
          main, bodies, filters := renderer.filters } helper) state := by
      intro value inner run
      simp only [found, run] at undisplaced
      rw [show state.output.error = none from clean] at undisplaced
      cases pending : inner.pending with
      | none => exact .inl rfl
      | some _ =>
        cases written : inner.output.error with
        | none => exact .inr rfl
        | some _ => simp [pending, written] at undisplaced
    rw [RenderM.runFrom_bind]
    rcases goesWith clean calm with ⟨same, stillClean⟩ | ⟨halt, stopped, stops, holds⟩
    · rw [same]
      exact finishesWith stillClean
    · rw [stops]
      exact .inr ⟨halt, stopped, rfl, fun raised isRaised =>
        Tracking.written.holds_of_kept keptLater (holds raised isRaised)⟩

/-- A strict part goes with the part, unless an error is displaced. -/
theorem ofPart {part : Part} (mem : part ∈ site.body)
    (builtin : site.CallsBuiltins renderer.helpers) :
    TracksPart renderer render render' site.origin site.context part := by
  by_cases isCall : ∃ name list main bodies span,
      part = .element (.helper name) list main bodies span
  · obtain ⟨name, list, main, bodies, span, rfl⟩ := isCall
    exact helper entered mem (builtin _ mem name.name rfl)
  · intro state later ends
    have law := Tracks.renderLaw renderer.sources
    have tracks := law.renderPart entered law.looks mem
      fun name list main bodies span same => absurd ⟨name, list, main, bodies, span, same⟩ isCall
    obtain ⟨kept, goesWith⟩ := tracks state () later ends
    exact ⟨kept, fun clean _ => goesWith clean⟩

/-- Strict parts go with the parts of a site, if they are given up before one that displaces an
error. -/
theorem ofParts (builtin : site.CallsBuiltins renderer.helpers) :
    Tracks .written Tracking.written.clean
      (renderer.renderParts render site.origin site.context site.body)
      (renderer.renderPartsStrictly (renderer.displaces render) render' site.origin site.context
        site.body) := by
  have parts (list : List Part) (isIn : ∀ part ∈ list, part ∈ site.body) :
      Tracks .written Tracking.written.clean
        (renderer.renderParts render site.origin site.context list)
        (renderer.renderPartsStrictly (renderer.displaces render) render' site.origin site.context
          list) := by
    induction list with
    | nil => exact (Tracks.stepLaw .written).pure ()
    | cons part rest induction =>
      intro state value later ends
      obtain ⟨_, middle, partEnds, restEnds⟩ := RenderM.runFrom_bind_ok ends
      obtain ⟨keptPart, partGoesWith⟩ :=
        ofPart entered (isIn part List.mem_cons_self) builtin state middle partEnds
      obtain ⟨keptRest, restGoesWith⟩ :=
        induction (fun other mem => isIn other (List.mem_cons_of_mem _ mem)) middle () later
          restEnds
      refine ⟨Tracking.written.trans keptPart keptRest, fun clean => ?_⟩
      rw [Renderer.runFrom_renderPartsStrictly_cons]
      by_cases displaced : renderer.displaces render site.origin site.context part state = true
      · rw [if_pos displaced]
        refine .inr ⟨_, _, rfl, fun raised isRaised => ?_⟩
        rw [show state.output.error = none from clean] at isRaised
        cases isRaised
      · rw [if_neg displaced]
        have calm : renderer.displaces render site.origin site.context part state = false :=
          Bool.of_not_eq_true displaced
        rcases partGoesWith clean calm with ⟨same, -⟩ | ⟨halt, stopped, stops, holds⟩
        · rw [same]
          dsimp only
          cases error : middle.output.error with
          | none => exact restGoesWith error
          | some raised =>
            refine .inr ⟨_, _, rfl, fun first isFirst => ?_⟩
            have held : Tracking.written.holds middle first := ⟨first, isFirst, .refl first⟩
            exact Tracking.written.holds_of_kept keptRest held
        · rw [stops]
          exact .inr ⟨halt, stopped, rfl, fun raised isRaised =>
            Tracking.written.holds_of_kept keptRest (holds raised isRaised)⟩
  exact parts site.body fun _ => id

end TracksPart

/-- A run ends with a result or with an error that is raised. -/
def Decided {α : Type} (run : Except Halt α × RenderState) : Prop :=
  (∃ value, run.1 = .ok value) ∨ run.2.output.error.isSome

/-- A run that has come to a halt has raised an error if it is decided. -/
theorem Decided.isSome {α : Type} {halt : Halt} {stopped : RenderState}
    (decided : Decided ((.error halt, stopped) : Except Halt α × RenderState)) :
    stopped.output.error.isSome :=
  decided.resolve_left fun ⟨_, isOk⟩ => by cases isOk

/-- A step that may give up ends as another one does that does not give up, unless it gives up. -/
def EndsAs : StepRel := fun wary strict =>
  ∀ state, Decided (wary.runFrom state) → strict.runFrom state = wary.runFrom state

namespace EndsAs

variable {α β : Type}

/-- A step ends as it does. -/
theorem refl (step : RenderM α) : EndsAs step step :=
  fun _ _ => rfl

/-- Steps in a row end alike if each of them does. -/
theorem bind {first first' : RenderM α} {next next' : α → RenderM β} (same : EndsAs first first')
    (after : ∀ value, EndsAs (next value) (next' value)) :
    EndsAs (first >>= next) (first' >>= next') := by
  intro state decided
  rw [RenderM.runFrom_bind] at decided ⊢
  rw [RenderM.runFrom_bind]
  rcases run : first.runFrom state with ⟨result, middle⟩
  rw [run] at decided
  cases result with
  | error halt =>
    have ends := same state (.inr (by rw [run]; exact decided.isSome))
    rw [ends, run]
  | ok value =>
    have ends := same state (.inl ⟨value, by rw [run]⟩)
    rw [ends, run]
    exact after value middle decided

/-- A body with an output of its own ends alike. -/
theorem apart {wrapped wrapped' : RenderM α} {step step' : RenderM Unit} {value : Output → α}
    {shown : Output → Output} {aside : Output → Option Error}
    (runs : RenderM.RunsApart wrapped step value shown aside)
    (runs' : RenderM.RunsApart wrapped' step' value shown aside) (same : EndsAs step step') :
    EndsAs wrapped wrapped' := by
  intro state decided
  rw [runs] at decided ⊢
  rw [runs']
  rcases run : step.runFrom { state with output := {} } with ⟨result, inner⟩
  rw [run] at decided
  have innerDecided : Decided (step.runFrom { state with output := {} }) := by
    rw [run]
    cases result with
    | ok value => exact .inl ⟨value, rfl⟩
    | error halt => exact .inr decided.isSome
  rw [same _ innerDecided, run]

/-- Gathering the errors of strings ends alike. -/
theorem gathered {step step' : RenderM α} (same : EndsAs step step') :
    EndsAs (RenderM.gathered step) (RenderM.gathered step') := by
  intro state decided
  rw [RenderM.runFrom_gathered] at decided ⊢
  rw [RenderM.runFrom_gathered]
  rcases run : step.runFrom { state with pending := none } with ⟨result, inner⟩
  rw [run] at decided
  have innerDecided : Decided (step.runFrom { state with pending := none }) := by
    rw [run]
    cases result with
    | ok value => exact .inl ⟨value, rfl⟩
    | error halt => exact .inr decided.isSome
  rw [same _ innerDecided, run]

/-- All steps of the evaluator end alike. -/
theorem renderLaw (sources : Sources) :
    RenderLaw sources (fun _ _ _ => True) EndsAs EndsAs EndsAs := by
  have steps : StepLaw EndsAs :=
    { pure := fun _ => .refl _
      bind := .bind
      overflow := .refl _
      read := fun _ => .refl _
      change := fun _ => .refl _
      write := fun _ => .refl _ }
  have output : OutputLaw sources (fun _ _ _ => True) EndsAs :=
    { apart := .apart
      gathered := .gathered
      loaded := fun after => .bind (.refl _) fun result => after result fun _ _ => trivial
      raise := fun _ _ _ => .refl _ }
  exact output.renderLaw steps

end EndsAs

namespace Renderer

variable {renderer : Renderer}

/-- What a call of a helper leaves where no error has been raised before: the error of what it
renders, or else that of its strings, or else what the helper gives up for. -/
theorem renderHelper_error {render : BodyRender} {origin : Origin} {context : Context}
    {name : Identifier} {list : List Param} {main : Option Body} {bodies : Dict Body} {span : Span}
    {helper : Helper} {state later : RenderState}
    (found : renderer.helpers.get? name.name = some helper)
    (ends : (renderer.renderHelper render origin context name list main bodies span).runFrom state =
      (.ok (), later)) :
    ∃ result inner,
      (runHelper { renderer.params render origin context list with
        main, bodies, filters := renderer.filters } helper).runFrom { state with pending := none } =
          (.ok result, inner) ∧
      (∀ value, result = .ok value →
        later.output.error = inner.output.error.or inner.pending) ∧
      ∀ fault, result = .error fault →
        later.output.error = (inner.output.error.or inner.pending).or
          (some ((Error.ofRender fault).withLocation origin.template.source span)) := by
  unfold renderHelper at ends
  rw [found] at ends
  obtain ⟨result, middle, gathers, finishes⟩ := RenderM.runFrom_bind_ok ends
  obtain ⟨inner, run, rfl⟩ := RenderM.runFrom_gathered_ok gathers
  refine ⟨result, inner, run, fun value isOk => ?_, fun fault isError => ?_⟩
  · subst isOk
    cases finishes
    rfl
  · subst isError
    simp only [Origin.noteOutcome, Origin.noteFault, Origin.noteError,
      RenderM.runFrom_noteError] at finishes
    cases finishes
    rfl

/-- A strict render goes with a render, if it gives up before a part that displaces an error. -/
theorem renderBody_tracks (helpers : renderer.helpers = Helper.builtins) (bound : Nat)
    (site : Site) :
    Tracks .written Tracking.written.clean
      (renderer.renderBody bound site.origin site.context site.body)
      (renderer.renderStrictly (fun bound => renderer.displaces (renderer.renderBody bound)) bound
        site.origin site.context site.body) := by
  induction bound generalizing site with
  | zero => exact Tracks.untouched .written fun _ _ _ ends => by cases ends
  | succ bound induction =>
    exact TracksPart.ofParts (fun inner _ => induction inner)
      (Site.callsBuiltins_of_helpers helpers site)

/-- Nothing is displaced where an error has been raised before. -/
theorem displaces_of_error {render : BodyRender} {origin : Origin} {context : Context} {part : Part}
    {state : RenderState} (displaced : renderer.displaces render origin context part state = true) :
    state.output.error = none := by
  unfold displaces at displaced
  split at displaced
  · split at displaced
    · dsimp only at displaced
      split at displaced
      · simp only [Bool.and_eq_true, Option.isNone_iff_eq_none] at displaced
        exact displaced.1.1
      · cases displaced
    · cases displaced
  · cases displaced

/-- Strict parts that may be given up end as those that may not, unless they are given up. -/
theorem renderPartsStrictly_endsAs {render wary strict : BodyRender} {site : Site}
    (builtin : site.CallsBuiltins renderer.helpers)
    (entered : ∀ inner, site.Enters renderer.maxDepth (fun _ _ _ => True) inner →
      EndsAs (wary inner.origin inner.context inner.body)
        (strict inner.origin inner.context inner.body)) :
    EndsAs
      (renderer.renderPartsStrictly (renderer.displaces render) wary site.origin site.context
        site.body)
      (renderer.renderPartsStrictly (fun _ _ _ _ => false) strict site.origin site.context
        site.body) := by
  have law := EndsAs.renderLaw renderer.sources
  have callLaw : CallLaw EndsAs EndsAs := { law.quiet with body := id, quoted := law.quoted }
  have parts (list : List Part) (isIn : ∀ part ∈ list, part ∈ site.body) :
      EndsAs
        (renderer.renderPartsStrictly (renderer.displaces render) wary site.origin site.context
          list)
        (renderer.renderPartsStrictly (fun _ _ _ _ => false) strict site.origin site.context
          list) := by
    induction list with
    | nil => exact .refl _
    | cons part rest induction =>
      intro state decided
      have mem : part ∈ site.body := isIn part List.mem_cons_self
      have partEndsAs : EndsAs (renderer.renderPart wary site.origin site.context part)
          (renderer.renderPart strict site.origin site.context part) := by
        refine law.renderPart entered law.looks mem fun name list main bodies span same => ?_
        subst same
        exact law.renderHelper entered callLaw mem (builtin _ mem name.name rfl)
      rw [runFrom_renderPartsStrictly_cons] at decided ⊢
      rw [runFrom_renderPartsStrictly_cons]
      by_cases displaced : renderer.displaces render site.origin site.context part state = true
      · rw [if_pos displaced] at decided
        have isSome : state.output.error.isSome := decided.isSome
        rw [displaces_of_error displaced] at isSome
        cases isSome
      · rw [if_neg displaced] at decided ⊢
        rcases run : (renderer.renderPart wary site.origin site.context part).runFrom state with
          ⟨result, middle⟩
        rw [run] at decided
        have partDecided : Decided
            ((renderer.renderPart wary site.origin site.context part).runFrom state) := by
          rw [run]
          cases result with
          | ok value => exact .inl ⟨value, rfl⟩
          | error halt => exact .inr decided.isSome
        rw [partEndsAs state partDecided, run]
        cases result with
        | error halt => rfl
        | ok value =>
          cases error : middle.output.error with
          | some raised => simp [error]
          | none =>
            simp only [error, Option.isSome_none, Bool.false_eq_true, if_false] at decided ⊢
            exact induction (fun other mem => isIn other (List.mem_cons_of_mem _ mem)) middle
              decided
  exact parts site.body fun _ => id

/-- A strict render that gives up before a part that displaces an error ends as one that does not
give up, unless it gives up. -/
theorem renderStrictly_endsAs (helpers : renderer.helpers = Helper.builtins) (bound : Nat)
    (site : Site) :
    EndsAs
      (renderer.renderStrictly (fun bound => renderer.displaces (renderer.renderBody bound)) bound
        site.origin site.context site.body)
      (renderer.renderStrictly (fun _ _ _ _ _ => false) bound site.origin site.context
        site.body) := by
  induction bound generalizing site with
  | zero => exact .refl _
  | succ bound induction =>
    exact renderPartsStrictly_endsAs (site.callsBuiltins_of_helpers helpers)
      fun inner _ => induction inner

/-- A render with no other helpers than those that are always there reports the error that is raised
first, unless the call of a helper displaces it. It reports none if none is raised. -/
theorem renderBody_reports_first (helpers : renderer.helpers = Helper.builtins) (bound : Nat)
    (site : Site) {state later : RenderState} (clean : state.output.error = none)
    (keeps : renderer.KeepsFirst bound site.origin site.context site.body state)
    (ends : (renderer.renderBody bound site.origin site.context site.body).runFrom state =
      (.ok (), later)) :
    Option.Rel Error.IsOf later.output.error
      (renderer.firstRaised bound site.origin site.context site.body state) := by
  obtain ⟨-, goesWith⟩ := renderBody_tracks helpers bound site state () later ends
  have endsAs := renderStrictly_endsAs helpers bound site state
    (keeps.imp (fun isOk => ⟨(), isOk⟩) id)
  unfold firstRaised
  rw [endsAs]
  rcases goesWith clean with ⟨same, noError⟩ | ⟨halt, stopped, stops, holds⟩
  · rw [same, show later.output.error = none from noError]
    exact .none
  · unfold KeepsFirst at keeps
    dsimp only at keeps
    rw [stops] at keeps ⊢
    have isSome : stopped.output.error.isSome := keeps.resolve_left fun isOk => by cases isOk
    obtain ⟨raised, isRaised⟩ := Option.isSome_iff_exists.mp isSome
    obtain ⟨reported, isReported, isOf⟩ := holds raised isRaised
    rw [isRaised, isReported]
    exact .some isOf

end Renderer

namespace Engine

/-- The error that is raised first when a template is rendered. -/
def firstRaised (engine : Engine) (template : Template) (input : RenderInput) : Option Error :=
  (engine.renderer input).firstRaised engine.bound ⟨template, 0⟩ [.blocks template.blocks]
    template.body (engine.startState input)

/-- No call of a helper displaces the error that is raised first when a template is rendered. -/
def KeepsFirst (engine : Engine) (template : Template) (input : RenderInput) : Prop :=
  (engine.renderer input).KeepsFirst engine.bound ⟨template, 0⟩ [.blocks template.blocks]
    template.body (engine.startState input)

end Engine

namespace EngineM

/-- The error that comes with a text is the one that was raised first, perhaps with the name of the
template that it was raised in, unless the call of a helper displaces it. None comes if none was
raised. -/
theorem renderOutput_reports_first (engine : Engine) (template : Template) (input : RenderInput)
    (helpers : engine.helpers = Helper.builtins) {output : Output}
    (ends : ((renderOutput template input).run engine).1 = .ok output)
    (keeps : engine.KeepsFirst template input) :
    Option.Rel Error.IsOf output.error (engine.firstRaised template input) := by
  obtain ⟨later, run, rfl⟩ := renderOutput_eq_ok ends
  exact @Renderer.renderBody_reports_first (engine.renderer input) helpers engine.bound
    ⟨⟨template, 0⟩, [.blocks template.blocks], template.body⟩ _ _ rfl keeps run

end EngineM

/-- A condition with a string that names a filter that is not known, around a reference. -/
def filteredCondition (filters : List Identifier) : Template where
  source := ""
  body :=
    let path : Path := ⟨.relative, [.name "x"], default⟩
    [.element (.helper ⟨"if", default⟩)
      [⟨⟨"cond", default⟩, .interpolated [.reference path [⟨"first", default⟩] default]⟩]
      (some [.reference path filters default]) [] default]
  blocks := []
  path := none

/-- An engine without templates. -/
def emptyEngine : Engine where
  sources := { files := ⟨.directory [], []⟩ }
  bound := 3

/-- Data with one entry. -/
def oneEntry : RenderInput where
  data := .map [("x", .string "a")]

/-- The error of a string is reported if nothing else is wrong. -/
theorem EngineM.renderOutput_reports_first_in_string :
    emptyEngine.KeepsFirst (filteredCondition []) oneEntry ∧
    ∃ output,
      ((EngineM.renderOutput (filteredCondition []) oneEntry).run emptyEngine).1 = .ok output ∧
      Option.Rel Error.IsOf output.error (emptyEngine.firstRaised (filteredCondition []) oneEntry) ∧
      (emptyEngine.firstRaised (filteredCondition []) oneEntry).map Error.message =
        some "unknown filter `first`" := by
  have keeps : emptyEngine.KeepsFirst (filteredCondition []) oneEntry := .inr rfl
  have ends : ((EngineM.renderOutput (filteredCondition []) oneEntry).run emptyEngine).1 = .ok
    ⟨"a", some { fault := .render (.unknownFilter "first"), location := some ⟨"", default⟩ }⟩ := rfl
  exact ⟨keeps, _, ends, EngineM.renderOutput_reports_first emptyEngine (filteredCondition [])
    oneEntry rfl ends keeps, rfl⟩

/-- An error that is raised in a string of a helper is displaced by one that is raised in its body.
-/
theorem EngineM.renderOutput_displaces_first :
    ¬ ∀ (engine : Engine) (template : Template) (input : RenderInput) (output : Output),
      engine.helpers = Helper.builtins →
      ((EngineM.renderOutput template input).run engine).1 = .ok output →
      Option.Rel Error.IsOf output.error (engine.firstRaised template input) := by
  intro always
  let template := filteredCondition [⟨"second", default⟩]
  have reported := always emptyEngine template oneEntry
    ⟨"a", some { fault := .render (.unknownFilter "second"), location := some ⟨"", default⟩ }⟩
    rfl rfl
  have first : emptyEngine.firstRaised template oneEntry =
    some { fault := .render (.unknownFilter "first"), location := some ⟨"", default⟩ } := rfl
  rw [first] at reported
  cases reported with
  | some isOf => exact absurd isOf.message (by decide)

end Dust
