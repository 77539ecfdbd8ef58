import Dust.Proofs.Render.Strict

/-!
# Following a strict render

A render is compared with a strict one step by step, from states in which no error has been raised.
Either both do the same and still no error is raised, or the strict render stops, and its error is
the one that the other render holds from then on. Where an error is held depends on what is going
on: in the output, or aside while the values of parameters are found.
-/

namespace Dust

/-- A slot holds an error that was raised. -/
def HoldsError (slot : Option Error) (raised : Error) : Prop :=
  ∃ reported, slot = some reported ∧ reported.IsOf raised

/-- A slot that holds an error keeps it. -/
def KeepsError (before after : Option Error) : Prop :=
  ∀ error, before = some error → after = some error

/-- A slot that stays the same keeps its error. -/
theorem KeepsError.refl (slot : Option Error) : KeepsError slot slot :=
  fun _ => id

/-- A slot that keeps its error holds what it has held. -/
theorem HoldsError.kept {before after : Option Error} {raised : Error}
    (holds : HoldsError before raised) (keeps : KeepsError before after) :
    HoldsError after raised := by
  obtain ⟨reported, isSome, isOf⟩ := holds
  exact ⟨reported, keeps reported isSome, isOf⟩

/-- A slot with another error behind it keeps its error. -/
theorem KeepsError.or_right {before after : Option Error} (keeps : KeepsError before after)
    (later : Option Error) : KeepsError before (after.or later) := by
  intro error isSome
  rw [keeps error isSome]
  rfl

/-- Where errors are held while something is going on. -/
structure Tracking where
  /-- No error has been raised. -/
  clean : RenderState → Prop
  /-- A state holds an error that was raised first. -/
  holds : RenderState → Error → Prop
  /-- Whatever a state holds, another one holds too. -/
  Kept : RenderState → RenderState → Prop
  /-- What is kept twice is kept. -/
  trans : ∀ {first second third}, Kept first second → Kept second third → Kept first third
  /-- What is kept is held. -/
  holds_of_kept : ∀ {state later raised}, Kept state later → holds state raised → holds later raised
  /-- Only errors matter. -/
  untouched : ∀ {state later}, later.output.error = state.output.error →
    later.pending = state.pending → Kept state later ∧ (clean state → clean later)

/-- Errors are held in the output. What is set aside stays the same. -/
def Tracking.written : Tracking where
  clean state := state.output.error = none
  holds state raised := HoldsError state.output.error raised
  Kept state later :=
    later.pending = state.pending ∧ KeepsError state.output.error later.output.error
  trans first second := ⟨second.1.trans first.1, fun error isSome => second.2 _ (first.2 _ isSome)⟩
  holds_of_kept kept holds := holds.kept kept.2
  untouched output pending :=
    ⟨⟨pending, fun _ isSome => by rw [output, isSome]⟩, fun clean => by rw [output, clean]⟩

/-- Errors are held aside. The error of the output stays the same. -/
def Tracking.aside : Tracking where
  clean state := state.output.error = none ∧ state.pending = none
  holds state raised := state.output.error = none ∧ HoldsError state.pending raised
  Kept state later :=
    later.output.error = state.output.error ∧ KeepsError state.pending later.pending
  trans first second := ⟨second.1.trans first.1, fun error isSome => second.2 _ (first.2 _ isSome)⟩
  holds_of_kept kept holds := ⟨kept.1.trans holds.1, holds.2.kept kept.2⟩
  untouched output pending :=
    ⟨⟨output, fun _ isSome => by rw [pending, isSome]⟩,
      fun clean => ⟨output.trans clean.1, pending.trans clean.2⟩⟩

/-- Errors are held in the output or aside. -/
def Tracking.either : Tracking where
  clean state := state.output.error = none ∧ state.pending = none
  holds state raised := HoldsError state.output.error raised ∨ HoldsError state.pending raised
  Kept state later :=
    KeepsError state.output.error later.output.error ∧ KeepsError state.pending later.pending
  trans first second :=
    ⟨fun error isSome => second.1 _ (first.1 _ isSome),
      fun error isSome => second.2 _ (first.2 _ isSome)⟩
  holds_of_kept kept holds :=
    holds.imp (fun written => written.kept kept.1) fun aside => aside.kept kept.2
  untouched output pending :=
    ⟨⟨fun _ isSome => by rw [output, isSome], fun _ isSome => by rw [pending, isSome]⟩,
      fun clean => ⟨output.trans clean.1, pending.trans clean.2⟩⟩

/-- A strict run goes with one that has ended: it has ended the same way, or it has stopped with an
error that the other one holds, or it has given up. -/
def Tracking.Matches (tracking : Tracking) (done : RenderState → Prop) {α : Type} (value : α)
    (later : RenderState) (strict : Except Halt α × RenderState) : Prop :=
  (strict = (.ok value, later) ∧ done later) ∨
    ∃ halt stopped, strict = (.error halt, stopped) ∧
      ∀ raised, stopped.output.error = some raised → tracking.holds later raised

/-- A step that ends keeps what is held, and a strict step goes with it if no error has been raised.
-/
def Tracks (tracking : Tracking) (done : RenderState → Prop) : StepRel := fun step strict =>
  ∀ state value later, step.runFrom state = (.ok value, later) →
    tracking.Kept state later ∧
      (tracking.clean state → tracking.Matches done value later (strict.runFrom state))

namespace Tracks

variable {tracking : Tracking} {done : RenderState → Prop} {α β : Type}

/-- A step that leaves the errors as they are goes with itself. -/
theorem untouched (tracking : Tracking) {step : RenderM α}
    (same : ∀ state value later, step.runFrom state = (.ok value, later) →
      later.output.error = state.output.error ∧ later.pending = state.pending) :
    Tracks tracking tracking.clean step step := by
  intro state value later ends
  obtain ⟨output, pending⟩ := same state value later ends
  obtain ⟨kept, clean⟩ := tracking.untouched output pending
  exact ⟨kept, fun isClean => .inl ⟨ends, clean isClean⟩⟩

/-- Strict steps in a row go with steps in a row. -/
theorem bind {first first' : RenderM α} {next next' : α → RenderM β}
    (tracks : Tracks tracking tracking.clean first first')
    (after : ∀ value, Tracks tracking done (next value) (next' value)) :
    Tracks tracking done (first >>= next) (first' >>= next') := by
  intro state value later ends
  obtain ⟨between, middle, firstEnds, nextEnds⟩ := RenderM.runFrom_bind_ok ends
  obtain ⟨keptFirst, firstMatches⟩ := tracks state between middle firstEnds
  obtain ⟨keptNext, nextMatches⟩ := after between middle value later nextEnds
  refine ⟨tracking.trans keptFirst keptNext, fun clean => ?_⟩
  rw [RenderM.runFrom_bind]
  rcases firstMatches clean with ⟨same, stillClean⟩ | ⟨halt, stopped, stops, holds⟩
  · rw [same]
    exact nextMatches stillClean
  · rw [stops]
    exact .inr ⟨halt, stopped, rfl, fun raised isRaised =>
      tracking.holds_of_kept keptNext (holds raised isRaised)⟩

/-- The elementary steps go with themselves wherever errors are held. -/
theorem stepLaw (tracking : Tracking) : StepLaw (Tracks tracking tracking.clean) where
  pure _ := untouched tracking fun _ _ _ ends => by cases ends; exact ⟨rfl, rfl⟩
  bind := bind
  overflow := untouched tracking fun _ _ _ ends => by cases ends
  read _ := untouched tracking fun _ _ _ ends => by cases ends; exact ⟨rfl, rfl⟩
  change _ := untouched tracking fun _ _ _ ends => by cases ends; exact ⟨rfl, rfl⟩
  write text := untouched tracking fun state _ _ ends => by
    rw [RenderM.runFrom_write] at ends
    cases ends
    simp

/-- Rendering a body with an output of its own goes with rendering it strictly, if the error of that
output is moved to where errors are held. -/
theorem apart {wrapped wrapped' : RenderM α} {step step' : RenderM Unit} {value : Output → α}
    {shown : Output → Output} {aside : Output → Option Error}
    (runs : RenderM.RunsApart wrapped step value shown aside)
    (runs' : RenderM.RunsApart wrapped' step' value shown aside)
    (moved : ∀ (before : Output) (later : RenderState),
      let around : RenderState := { later with output := before }
      let final : RenderState := { later with
        output := before ++ shown later.output
        pending := later.pending.or (aside later.output) }
      tracking.Kept around final ∧
      (tracking.clean around → later.output.error = none → tracking.clean final) ∧
      ∀ raised, tracking.clean around → HoldsError later.output.error raised →
        tracking.holds final raised)
    (tracks : Tracks .written Tracking.written.clean step step') :
    Tracks tracking tracking.clean wrapped wrapped' := by
  intro state value later ends
  obtain ⟨inner, run, rfl, rfl⟩ := runs.ok ends
  obtain ⟨⟨pending, -⟩, goesWith⟩ := tracks _ () inner run
  have around : tracking.Kept state { inner with output := state.output } ∧
      (tracking.clean state → tracking.clean { inner with output := state.output }) :=
    tracking.untouched rfl pending
  obtain ⟨keptAround, cleanAround⟩ := around
  obtain ⟨keptFinal, cleanFinal, holdsFinal⟩ := moved state.output inner
  refine ⟨tracking.trans keptAround keptFinal, fun clean => ?_⟩
  rw [runs']
  rcases goesWith rfl with ⟨same, noError⟩ | ⟨halt, stopped, stops, holds⟩
  · rw [same]
    exact .inl ⟨rfl, cleanFinal (cleanAround clean) noError⟩
  · rw [stops]
    exact .inr ⟨halt, stopped, rfl, fun raised isRaised =>
      holdsFinal raised (cleanAround clean) (holds raised isRaised)⟩

/-- A strict string goes with a string while the values of parameters are found. -/
theorem quoted {step step' : RenderM Unit}
    (tracks : Tracks .written Tracking.written.clean step step') :
    Tracks .aside Tracking.aside.clean (RenderM.quoted step) (RenderM.quoted step') := by
  refine apart (RenderM.quoted_runsApart _) (RenderM.quoted_runsApart _)
    (fun before later => ?_) tracks
  refine ⟨⟨by simp, (KeepsError.refl _).or_right _⟩, fun clean noError => ?_,
    fun raised clean holds => ?_⟩
  · exact ⟨by simpa using clean.1, by simp [show later.pending = none from clean.2, noError]⟩
  · refine ⟨by simpa using clean.1, ?_⟩
    simpa [show later.pending = none from clean.2] using holds

/-- A strict string goes with a string in the course of a helper. -/
theorem quotedInside {step step' : RenderM Unit}
    (tracks : Tracks .written Tracking.written.clean step step') :
    Tracks .either Tracking.either.clean (RenderM.quoted step) (RenderM.quoted step') := by
  refine apart (RenderM.quoted_runsApart _) (RenderM.quoted_runsApart _)
    (fun before later => ?_) tracks
  refine ⟨⟨(KeepsError.refl _).or_right _, (KeepsError.refl _).or_right _⟩, fun clean noError => ?_,
    fun raised clean holds => .inr ?_⟩
  · exact ⟨by simpa using clean.1, by simp [show later.pending = none from clean.2, noError]⟩
  · simpa [show later.pending = none from clean.2] using holds

/-- A strict name goes with a name. -/
theorem named {step step' : RenderM Unit}
    (tracks : Tracks .written Tracking.written.clean step step') :
    Tracks .written Tracking.written.clean (RenderM.named step) (RenderM.named step') := by
  refine apart (RenderM.named_runsApart _) (RenderM.named_runsApart _)
    (fun before later => ?_) tracks
  refine ⟨⟨by simp, (KeepsError.refl _).or_right _⟩, fun clean noError => ?_,
    fun raised clean holds => ?_⟩
  · exact (congrArg₂ Option.or clean noError)
  · change HoldsError (before.error.or later.output.error) raised
    rwa [show before.error = none from clean]

/-- Strict inclusion goes with inclusion. -/
theorem included {name : String} {step step' : RenderM Unit}
    (tracks : Tracks .written Tracking.written.clean step step') :
    Tracks .written Tracking.written.clean (RenderM.included name step)
      (RenderM.included name step') := by
  refine apart (RenderM.included_runsApart _ _) (RenderM.included_runsApart _ _)
    (fun before later => ?_) tracks
  refine ⟨⟨by simp, (KeepsError.refl _).or_right _⟩, fun clean noError => ?_,
    fun raised clean holds => ?_⟩
  · exact congrArg₂ Option.or clean (by rw [noError]; rfl)
  · obtain ⟨reported, isSome, isOf⟩ := holds
    change HoldsError (before.error.or (later.output.error.map _)) raised
    rw [show before.error = none from clean, isSome]
    exact ⟨_, rfl, isOf.inTemplate name⟩

/-- Gathering the errors of strings goes with gathering them strictly. -/
theorem gathered {step step' : RenderM α} (tracks : Tracks .aside Tracking.aside.clean step step') :
    Tracks .written Tracking.written.clean (RenderM.gathered step) (RenderM.gathered step') := by
  intro state value later ends
  obtain ⟨inner, run, rfl⟩ := RenderM.runFrom_gathered_ok ends
  obtain ⟨⟨output, -⟩, goesWith⟩ := tracks _ value inner run
  refine ⟨⟨rfl, ?_⟩, fun clean => ?_⟩
  · intro error isSome
    simp only [Output.append_error, output, isSome, Option.some_or]
  · rw [RenderM.runFrom_gathered]
    rcases goesWith ⟨clean, rfl⟩ with ⟨same, noError, noPending⟩ | ⟨halt, stopped, stops, holds⟩
    · rw [same]
      exact .inl ⟨rfl, congrArg₂ Option.or noError noPending⟩
    · rw [stops]
      refine .inr ⟨halt, stopped, rfl, fun raised isRaised => ?_⟩
      obtain ⟨noError, pending⟩ := holds raised isRaised
      change HoldsError (inner.output.error.or inner.pending) raised
      rwa [noError]

/-- A body that is rendered strictly goes with the body in the course of a helper. -/
theorem body {step step' : RenderM Unit}
    (tracks : Tracks .written Tracking.written.clean step step') :
    Tracks .either Tracking.either.clean step step' := by
  intro state value later ends
  obtain ⟨⟨pending, kept⟩, goesWith⟩ := tracks state value later ends
  refine ⟨⟨kept, fun error isSome => by rw [pending, isSome]⟩, fun clean => ?_⟩
  rcases goesWith clean.1 with ⟨same, noError⟩ | ⟨halt, stopped, stops, holds⟩
  · exact .inl ⟨same, noError, pending.trans clean.2⟩
  · exact .inr ⟨halt, stopped, stops, fun raised isRaised => .inl (holds raised isRaised)⟩

/-- The last step of a part goes with itself if it keeps the error of the output. An error may be
raised by it. -/
theorem last {step : RenderM Unit}
    (kept : ∀ state value later, step.runFrom state = (.ok value, later) →
      Tracking.written.Kept state later) :
    Tracks .written (fun _ => True) step step :=
  fun state value later ends => ⟨kept state value later ends, fun _ => .inl ⟨ends, trivial⟩⟩

/-- It may be left open whether an error has been raised. -/
theorem weaken {step step' : RenderM α} (tracks : Tracks tracking done step step') :
    Tracks tracking (fun _ => True) step step' := by
  intro state value later ends
  obtain ⟨kept, goesWith⟩ := tracks state value later ends
  exact ⟨kept, fun clean => (goesWith clean).imp (fun ended => ⟨ended.1, trivial⟩) id⟩

/-- The steps of the evaluator go with themselves when they are done strictly. -/
theorem renderLaw (sources : Sources) :
    RenderLaw sources (fun _ _ _ => True) (Tracks .written Tracking.written.clean)
      (Tracks .aside Tracking.aside.clean) (Tracks .written fun _ => True) where
  toStepLaw := stepLaw .written
  quiet := stepLaw .aside
  quoted := quoted
  gathered := gathered
  named := named
  included := included
  whole := weaken
  after := bind
  loaded {name base next next'} after := by
    refine bind (untouched .written fun state value later ends => ?_) fun result =>
      after result fun _ _ => trivial
    rw [RenderM.runFrom_withStore] at ends
    cases ends
    exact ⟨rfl, rfl⟩
  raise origin error span := last fun state value later ends => by
    rw [Origin.noteError, RenderM.runFrom_noteError] at ends
    cases ends
    exact ⟨rfl, (KeepsError.refl _).or_right _⟩
  raiseWrite origin error span text := last fun state value later ends => by
    rw [Origin.noteError, RenderM.runFrom_bind, RenderM.runFrom_noteError] at ends
    simp only [RenderM.runFrom_write] at ends
    cases ends
    exact ⟨rfl, ((KeepsError.refl _).or_right _).or_right _⟩

/-- A strict helper goes with a helper as far as errors are held in the output or aside. -/
theorem callLaw : CallLaw (Tracks .written Tracking.written.clean)
    (Tracks .either Tracking.either.clean) where
  toStepLaw := stepLaw .either
  body := body
  quoted := quotedInside

end Tracks

end Dust
