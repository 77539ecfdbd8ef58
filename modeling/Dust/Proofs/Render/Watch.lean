import Dust.Proofs.Helper.Decision
import Dust.Render.Evaluate

/-!
# Watching a render

What happens within a render does not show in what it leaves behind: which comparison of a selection
has rendered its body, or when a key has been given its value. A watched render does the same as one
that is not watched, and besides reports events. It tells of every part that is reached with the
data and the flags as they are then, of every edit of the data, of every comparison in a selection
with the body that it renders, and of every helper that asks whether a comparison has matched.

The helpers that take part are made of the same pieces as those they stand for, with a report where
something has been decided. What is reported is what the next step acts upon.
-/

namespace Dust

/-- What happens in a render. A selection is told by the place of its flag, which no other selection
has as long as this one is open. -/
inductive Event where
  /-- A part is reached, or the end of a body, with the data and the flags as they are. -/
  | reached (root : Value) (flags : List Bool)
  /-- A key of the data is given an entry, or loses the one it has. -/
  | edited (key : String) (entry : Option Value)
  /-- A comparison in a selection has been decided, and renders the body that is chosen. -/
  | compared (flag : Nat) (passes : Bool) (choice : Choice)
  /-- A helper has asked whether a comparison in a selection has matched. It wants to hear that one
  has, or that none has, and renders its body if it does. -/
  | asked (flag : Nat) (wants : Bool) (shown : Bool)

/-! ### Events among reports -/

/-- The value of a choice. -/
def Choice.toValue : Choice → Value
  | main => .bool true
  | other => .bool false
  | nothing => .null

/-- The choice that a value tells. -/
def Choice.ofValue : Value → Choice
  | .bool true => main
  | .bool false => other
  | _ => nothing

/-- A choice is told by its value. -/
@[simp]
theorem Choice.ofValue_toValue (choice : Choice) : ofValue choice.toValue = choice := by
  cases choice <;> rfl

namespace Event

/-- The value that an event is reported as. -/
def toValue : Event → Value
  | reached root flags => .list [.string "reached", root, .list (flags.map .bool)]
  | edited key none => .list [.string "edited", .string key]
  | edited key (some value) => .list [.string "edited", .string key, value]
  | compared flag passes choice =>
    .list [.string "compared", .list (List.replicate flag .null), .bool passes, choice.toValue]
  | asked flag wants shown =>
    .list [.string "asked", .list (List.replicate flag .null), .bool wants, .bool shown]

/-- The event that a value reports. -/
def ofValue? : Value → Option Event
  | .list [.string "reached", root, .list flags] =>
    some (reached root (flags.map fun flag => flag matches .bool true))
  | .list [.string "edited", .string key] => some (edited key none)
  | .list [.string "edited", .string key, value] => some (edited key (some value))
  | .list [.string "compared", .list flag, .bool passes, choice] =>
    some (compared flag.length passes (.ofValue choice))
  | .list [.string "asked", .list flag, .bool wants, .bool shown] =>
    some (asked flag.length wants shown)
  | _ => none

/-- An event is told by the value it is reported as. -/
theorem ofValue?_toValue (event : Event) : ofValue? event.toValue = some event := by
  cases event with
  | reached root flags =>
    have same : (flags.map Value.bool).map (fun flag => flag matches .bool true) = flags := by
      rw [List.map_map]
      refine (List.map_congr_left fun flag _ => ?_).trans (List.map_id flags)
      cases flag <;> rfl
    simp only [toValue, ofValue?, same]
  | edited key entry => cases entry <;> simp [toValue, ofValue?]
  | compared flag passes choice => simp [toValue, ofValue?]
  | asked flag wants shown => simp [toValue, ofValue?]

end Event

/-- The events among the reports. -/
def RenderState.events (state : RenderState) : List Event :=
  state.reports.filterMap Event.ofValue?

/-- Events are found where they have been reported. -/
theorem RenderState.events_map_toValue (state : RenderState) (events : List Event) :
    { state with reports := events.map Event.toValue }.events = events := by
  have told : Event.ofValue? ∘ Event.toValue = some := funext Event.ofValue?_toValue
  rw [RenderState.events, List.filterMap_map, told, List.filterMap_some]

namespace RenderM

/-- Reports an event. -/
def reportEvent (event : Event) : RenderM Unit :=
  modify fun state => { state with reports := state.reports ++ [event.toValue] }

/-- The events of a watched step that starts from a state. -/
def eventsFrom {α : Type} (watched : RenderM α) (state : RenderState) : List Event :=
  (watched.runFrom { state with reports := [] }).2.events

/-- A step is watched from a state: the watched step ends as it does, and leaves the same state but
for the reports, which are events. -/
def IsWatched {α : Type} (step watched : RenderM α) (state : RenderState) : Prop :=
  watched.runFrom { state with reports := [] } =
    ((step.runFrom state).1,
      { (step.runFrom state).2 with
        reports := (watched.eventsFrom state).map Event.toValue })

/-- Reports the data and the flags. -/
def reportReached : RenderM Unit := do
  let state ← get
  reportEvent (.reached state.root state.flags)

end RenderM

/-! ### Watched helpers -/

namespace Helper

/-- Decides which body a comparison in a selection renders, and reports it. -/
def watchChoose (selection : Selection) (passes : Bool) : RenderM Choice := do
  let choice ← choose selection passes
  RenderM.reportEvent (.compared selection.flag passes choice)
  return choice

/-- Asks whether a comparison in a selection has matched, and reports the answer to what wants to
hear one of the two. -/
def watchResolved (selection : Selection) (wants : Bool) : RenderM Bool := do
  let resolved ← RenderM.isResolved selection
  RenderM.reportEvent (.asked selection.flag wants (resolved = wants))
  return resolved

/-- Reports the entry that a change leaves, if it changes the data. -/
def reportChange (change : Change) : RenderM Unit := do
  match (← get).root.entries? with
  | some entries => RenderM.reportEvent (.edited change.key (change.entry entries))
  | none => return

/-- Makes a change, and reports it. -/
def watchPerform (change : Change) : ChangeM Unit := do
  reportChange change
  change.perform

/-- The helper of a name that reports, if it has something to report. -/
def watch (name : String) (helper : Helper) : Helper :=
  match tests.get? name with
  | some test => comparisonBy watchChoose test
  | none =>
    match name with
    | "any" => whenResolvedBy watchResolved "any" true
    | "none" => whenResolvedBy watchResolved "none" false
    | "default" => defaultBy watchResolved
    | "set" => changeBy watchPerform "set" askedToSet
    | "unset" => changeBy watchPerform "unset" askedToUnset
    | _ => helper

end Helper

/-! ### Watched renders -/

namespace Renderer

/-- The renderer with helpers that report. -/
def watched (renderer : Renderer) : Renderer :=
  { renderer with
    helpers := renderer.helpers.map fun entry => (entry.1, entry.2.watch entry.1) }

/-- Renders parts in order, and reports what each of them finds. -/
def watchedParts (renderer : Renderer) (render : BodyRender) (origin : Origin)
    (context : Context) : Body → RenderM Unit
  | [] => RenderM.reportReached
  | part :: rest => do
    RenderM.reportReached
    renderer.watched.renderPart render origin context part
    renderer.watchedParts render origin context rest

/-- Renders bodies that are nested in each other up to a bound, and reports what happens. -/
def watchedBody (renderer : Renderer) (bound : Nat) : BodyRender := fun origin context body =>
  match bound with
  | 0 => throw .exhausted
  | bound + 1 => renderer.watchedParts (renderer.watchedBody bound) origin context body

end Renderer

end Dust
