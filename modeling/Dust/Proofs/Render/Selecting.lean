import Dust.Proofs.Render.Append
import Dust.Proofs.Render.Watching

/-!
# Selections

In a selection the first match wins: of the comparisons in it, in the order in which they are
evaluated, the first one that passes renders its main body, those before it render their other body,
and those after it render nothing. Helpers that ask whether a comparison has matched are answered by
what has happened so far. All of this is told by the events of the selection, wherever in its body
they happen: in sections that go through lists, in other selections around or inside, in included
templates and in inline partials.
-/

namespace Dust

/-- The event of a comparison that passes in the selection with a flag. -/
def Event.isMatch (flag : Nat) : Event → Bool
  | .compared place passes _ => place = flag && passes
  | _ => false

/-- Whether a comparison in the selection with a flag has passed before an event. -/
def matchedBefore (flag : Nat) (events : List Event) (n : Nat) : Bool :=
  (events.take n).any (Event.isMatch flag)

/-- Among events the first match wins in the selection with a flag. -/
structure FirstMatchWins (flag : Nat) (events : List Event) : Prop where
  /-- The first comparison that passes renders its main body. -/
  first : ∀ n choice, events[n]? = some (.compared flag true choice) →
    matchedBefore flag events n = false → choice = .main
  /-- Comparisons before it render the body for the other case. -/
  earlier : ∀ n choice, events[n]? = some (.compared flag false choice) →
    matchedBefore flag events n = false → choice = .other
  /-- Comparisons after it render nothing. -/
  later : ∀ n passes choice, events[n]? = some (.compared flag passes choice) →
    matchedBefore flag events n = true → choice = .nothing
  /-- At every part the flag tells whether a comparison has matched before. -/
  told : ∀ n root flags, events[n]? = some (.reached root flags) →
    flags[flag]? = some (matchedBefore flag events n)
  /-- A helper that asks renders its body if what has happened before is what it waits for. -/
  answered : ∀ n wants shown, events[n]? = some (.asked flag wants shown) →
    (shown = true ↔ matchedBefore flag events n = wants)

/-- What events make of a flag is whether it was set before or a comparison matches among them. -/
theorem flagLedger_replay (flag : Nat) (before : Bool) (events : List Event) :
    (flagLedger flag).replay before events = (before || events.any (Event.isMatch flag)) := by
  induction events generalizing before with
  | nil => simp [Ledger.replay]
  | cons event rest induction =>
    have step : (flagLedger flag).replay before (event :: rest) =
        (flagLedger flag).replay ((flagLedger flag).next before event) rest := rfl
    have next : (flagLedger flag).next before event = (before || event.isMatch flag) := by
      cases event with
      | compared place passes choice =>
        by_cases own : place = flag <;> simp [flagLedger, Event.isMatch, own]
      | _ => simp [flagLedger, Event.isMatch]
    rw [step, next, induction, List.any_cons, Bool.or_assoc]

/-- Where events account for a flag that is not set in the beginning, the first match wins. -/
theorem FirstMatchWins.of_follows {flag : Nat} {events : List Event} {after : Bool}
    (follows : (flagLedger flag).Follows false events after) : FirstMatchWins flag events := by
  have fits (n : Nat) (event : Event) (isEvent : events[n]? = some event) :
      (flagLedger flag).fits (matchedBefore flag events n) event := by
    have truth := follows.fits_getElem? isEvent
    rwa [flagLedger_replay, Bool.false_or] at truth
  constructor
  case first =>
    intro n choice isEvent unmatched
    rw [fits n _ isEvent rfl, unmatched]
    rfl
  case earlier =>
    intro n choice isEvent unmatched
    rw [fits n _ isEvent rfl, unmatched]
    rfl
  case later =>
    intro n passes choice isEvent matched
    rw [fits n _ isEvent rfl, matched]
    rfl
  case told =>
    intro n root flags isEvent
    exact fits n _ isEvent
  case answered =>
    intro n wants shown isEvent
    rw [fits n _ isEvent rfl]
    exact beq_iff_eq

/-- The events of a step with a new flag are those of the step, from the flags with one more. -/
theorem RenderM.eventsFrom_withFlag (step : Nat → RenderM Unit) (state : RenderState) :
    (RenderM.withFlag step).eventsFrom state =
      (step state.flags.length).eventsFrom { state with flags := state.flags ++ [false] } := by
  unfold eventsFrom
  rw [runFrom_withFlag]
  simp only
  rcases (step state.flags.length).runFrom
    { state with flags := state.flags ++ [false], reports := [] } with ⟨result, later⟩
  cases result <;> rfl

/-- A body is rendered in a selection with a new flag, as the helper `select` renders its body. If
only helpers are called that are always there, then the first match wins in this selection. -/
theorem Renderer.first_match_wins {renderer : Renderer}
    (builtin : ∀ name helper, renderer.helpers.get? name = some helper →
      (name, helper) ∈ Helper.builtins)
    (bound : Nat) (origin : Origin) (context : Context) (key : Value) (body : Body)
    (state : RenderState) :
    let selecting (render : BodyRender) : RenderM Unit :=
      RenderM.withFlag fun flag => render origin (.selection ⟨key, flag⟩ :: context) body
    (selecting (renderer.renderBody bound)).IsWatched (selecting (renderer.watchedBody bound))
        state ∧
      FirstMatchWins state.flags.length
        ((selecting (renderer.watchedBody bound)).eventsFrom state) := by
  intro selecting
  let flag := state.flags.length
  have inside (flag : Nat) := renderer.renderBody_watches builtin bound origin
    (.selection ⟨key, flag⟩ :: context) body
  have watches : Watches (selecting (renderer.renderBody bound))
      (selecting (renderer.watchedBody bound)) := .withFlag inside
  refine ⟨(watches.accounts state).1, ?_⟩
  have isNew : (state.flags ++ [false])[flag]? = some false := by simp [flag]
  obtain ⟨-, accounts⟩ := (inside flag).accounts { state with flags := state.flags ++ [false] }
  obtain ⟨after, -, follows⟩ := accounts.flags flag false isNew
  rw [RenderM.eventsFrom_withFlag]
  exact .of_follows follows

/-- The choice that an event of a comparison tells. -/
def Event.choice? : Event → Option Choice
  | .compared _ _ choice => some choice
  | _ => none

/-- Whether an event of a helper that asks tells that it renders its body. -/
def Event.shown? : Event → Option Bool
  | .asked _ _ shown => some shown
  | _ => none

/-- A call of a helper with a body. -/
def callPart (name : String) (list : List Param) (main : Body) : Part :=
  .element (.helper ⟨name, default⟩) list (some main) [("else", [.text "other"])] default

/-- A call of a comparison with a number. -/
def comparePart (name : String) (n : Int64) : Part :=
  callPart name [⟨⟨"value", default⟩, .literal (.integer n)⟩] [.text "main"]

/-- Four comparisons, of which the second one and the last one pass, with helpers that ask in
between. -/
def comparingBody : Body :=
  [comparePart "gt" 1, callPart "none" [] [], comparePart "eq" 1, callPart "any" [] [],
    comparePart "lt" 1, callPart "default" [] [], comparePart "ne" 2]

/-- The events of the comparisons in a selection with the key one. -/
def comparingEvents : List Event :=
  (RenderM.withFlag fun flag =>
    Renderer.builtinRenderer.watchedBody 2 ⟨⟨"", comparingBody, [], none⟩, 0⟩
      [.selection ⟨.integer 1, flag⟩] comparingBody).eventsFrom {}

/-- The second one of four comparisons matches first. -/
theorem Renderer.first_match_wins_comparing :
    FirstMatchWins 0 comparingEvents ∧
      comparingEvents.filterMap Event.choice? = [.other, .main, .nothing, .nothing] ∧
      comparingEvents.filterMap Event.shown? = [true, true, false] := by
  have builtin (name : String) (helper : Helper)
      (found : Renderer.builtinRenderer.helpers.get? name = some helper) :
      (name, helper) ∈ Helper.builtins := Dict.mem_of_get? found
  have wins := Renderer.first_match_wins builtin 2 ⟨⟨"", comparingBody, [], none⟩, 0⟩ []
    (.integer 1) comparingBody {}
  refine ⟨wins.2, ?_, ?_⟩
  · decide +kernel
  · decide +kernel

end Dust
