import Dust.Syntax.Tree
import Dust.Text.Split
import Dust.Value.Lookup

/-!
# Contexts

A template is rendered in a chain of frames, innermost first, around which are the data of the
render. A frame holds a value, or it holds something that look-ups pass by: the inline partials of a
template, or the key of a selection. Behind the data come the globals.
-/

namespace Dust

/-- The place of an item in a list that a section goes through. -/
structure Iteration where
  /-- The number of items before this one. -/
  index : Nat
  /-- The number of items. -/
  length : Nat
  deriving DecidableEq

/-- A selection: the value that comparisons in it start from, and the place of the flag that tells
whether one of them has matched. -/
structure Selection where
  /-- The value. -/
  key : Value
  /-- The place of the flag. -/
  flag : Nat

/-- A frame of a context. -/
inductive Frame where
  /-- A value, which may be an item of a list. -/
  | value (value : Value) (iteration : Option Iteration)
  /-- The inline partials of a template. -/
  | blocks (blocks : Dict Body)
  /-- A selection. -/
  | selection (selection : Selection)

/-- The frames around a place in a template, innermost first. -/
abbrev Context := List Frame

/-- The values around all frames. -/
structure Scope where
  /-- The data of the render. -/
  root : Value
  /-- The values that are seen when nothing else is. -/
  globals : Value

/-- A step on the way to a value. -/
inductive Step where
  /-- A key as written. -/
  | name (name : String)
  /-- A key that is the value of a path. -/
  | computed (name : String)
  /-- A position. -/
  | index (index : Nat)

/-- The value that a step leads to. -/
def Value.follow? (value : Value) : Step → Option Value
  | .name name => value.get? name
  | .computed name => value.get? name
  | .index index => value.item? index

/-- The step that a value stands for as the key of another one. -/
def Value.toStep? : Value → Option Step
  | integer n => if 0 ≤ n.toInt then some (.index n.toInt.toNat) else none
  | string text => some (.computed text)
  | _ => none

namespace Frame

/-- The value of a frame. -/
def value? : Frame → Option Value
  | value v _ => some v
  | _ => none

/-- The place in a list that a frame tells. -/
def iteration? : Frame → Option Iteration
  | value _ iteration => iteration
  | _ => none

/-- The selection of a frame. -/
def selection? : Frame → Option Selection
  | selection s => some s
  | _ => none

/-- The inline partial of a name. -/
def block? (name : String) : Frame → Option Body
  | blocks definitions => Dict.get? definitions name
  | _ => none

end Frame

namespace Context

/-- The innermost value. -/
def current (context : Context) (scope : Scope) : Value :=
  (context.findSome? Frame.value?).getD scope.root

/-- The place in the list of the innermost section that goes through one. -/
def iteration? (context : Context) : Option Iteration :=
  context.findSome? Frame.iteration?

/-- The innermost selection. -/
def selection? (context : Context) : Option Selection :=
  context.findSome? Frame.selection?

/-- The inline partial of a name in the innermost template that has one. -/
def block? (context : Context) (name : String) : Option Body :=
  context.findSome? (Frame.block? name)

/-- The value of a name that tells the place in a list. -/
def special? (context : Context) (name : String) : Option Value := do
  let iteration ← context.iteration?
  match name with
  | "$idx" => some (Value.ofNat iteration.index)
  | "$key" => some (Value.ofNat iteration.index)
  | "$len" => some (Value.ofNat iteration.length)
  | "$iter" => some (Value.ofNat (iteration.index + 1))
  | _ => none

/-- The first value that a step leads to from the frames, the data and the globals in turn. -/
def search? (context : Context) (scope : Scope) (step : Step) : Option Value :=
  (context.findSome? fun frame => frame.value?.bind (·.follow? step)).or
    ((scope.root.follow? step).or (scope.globals.follow? step))

/-- The value that the first step of a way leads to. -/
def find? (context : Context) (scope : Scope) (step : Step) : Option Value :=
  match step with
  | .name name => (context.special? name).or (context.search? scope step)
  | _ => context.search? scope step

mutual

/-- The value that a path leads to. Once the first key is found, no other frame is asked for the
rest. -/
def get? (context : Context) (scope : Scope) : Path → Option Value
  | ⟨anchor, keys, _⟩ =>
    match keys with
    | [] => some (context.current scope)
    | first :: rest => do
      let step ← toStep? context scope first
      let value ← match anchor with
        | .current => (context.current scope).follow? step
        | .relative => context.find? scope step
      followKeys? context scope value rest

/-- The step that a key stands for. -/
def toStep? (context : Context) (scope : Scope) : Key → Option Step
  | .name name => some (.name name)
  | .index index => some (.index index)
  | .path path => do (← get? context scope path).toStep?

/-- The value that keys lead to from a value. -/
def followKeys? (context : Context) (scope : Scope) (value : Value) : List Key → Option Value
  | [] => some value
  | key :: rest => do
    let step ← toStep? context scope key
    let inner ← value.follow? step
    followKeys? context scope inner rest

end

/-- The value that names with dots between them lead to. -/
def getDotted? (context : Context) (scope : Scope) (text : String) : Option Value :=
  match (Text.splitAt '.' text.toList).map String.ofList with
  | [] => none
  | first :: rest => do
    let value ← context.find? scope (.name first)
    rest.foldlM Value.get? value

/-- The values of the frames, one in the other. -/
def nested (scope : Scope) : Context → Value
  | [] => .map [("head", scope.root), ("tail", .null)]
  | frame :: outer =>
    match frame.value? with
    | some value => .map [("head", value), ("tail", nested scope outer)]
    | none => nested scope outer

/-- The values of the frames and the globals as one value. -/
def dump (context : Context) (scope : Scope) : Value :=
  .map [("globals", scope.globals), ("stack", nested scope context)]

end Context

end Dust
