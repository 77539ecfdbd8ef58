import Dust.Value.Basic

/-!
# Values inside of values

A property of a value can be asked of all values in it too. So it is with the order of maps, and with
doubles. How deep lists and maps are nested is a number.
-/

namespace Dust.Value

mutual

/-- A property of a value and of all values in it. -/
def Throughout (holds : Value → Prop) : Value → Prop
  | list items => holds (list items) ∧ ThroughoutItems holds items
  | map entries => holds (map entries) ∧ ThroughoutEntries holds entries
  | value => holds value

/-- A property of some values and of all values in them. -/
def ThroughoutItems (holds : Value → Prop) : List Value → Prop
  | [] => True
  | item :: rest => Throughout holds item ∧ ThroughoutItems holds rest

/-- A property of the values of some entries and of all values in them. -/
def ThroughoutEntries (holds : Value → Prop) : List (String × Value) → Prop
  | [] => True
  | (_, value) :: rest => Throughout holds value ∧ ThroughoutEntries holds rest

end

/-- A value that is a map is a dictionary. -/
def HasOrder : Value → Prop
  | map entries => Dict.Sorted entries
  | _ => True

/-- All maps in a value are dictionaries. -/
def IsOrdered (value : Value) : Prop :=
  value.Throughout HasOrder

/-- A value is no double. -/
def IsNoFloat : Value → Prop
  | float _ => False
  | _ => True

/-- There are no doubles in a value. -/
def IsFloatless (value : Value) : Prop :=
  value.Throughout IsNoFloat

mutual

/-- How deep lists and maps are nested in a value. -/
def depth : Value → Nat
  | list items => depthOfItems items + 1
  | map entries => depthOfEntries entries + 1
  | _ => 0

/-- How deep lists and maps are nested in some values. -/
def depthOfItems : List Value → Nat
  | [] => 0
  | item :: rest => max (depth item) (depthOfItems rest)

/-- How deep lists and maps are nested in the values of some entries. -/
def depthOfEntries : List (String × Value) → Nat
  | [] => 0
  | (_, value) :: rest => max (depth value) (depthOfEntries rest)

end

end Dust.Value
