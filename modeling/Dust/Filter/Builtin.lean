import Dust.Filter.Escape
import Dust.Filter.Percent
import Dust.Syntax.Tree
import Dust.Value.Json

/-!
# Filters

A filter turns a value into another one before it is written. Those for texts treat what numbers and
truth values are written as, and leave the other values alone.
-/

namespace Dust

/-- A filter. -/
abbrev Filter := Value → Value

namespace Filter

/-- The filter that changes what is written of a value. -/
def onText (change : List Char → List Char) : Filter
  | .string text => .string (String.ofList (change text.toList))
  | .integer n => .string (String.ofList (change (Value.integer n).display.toList))
  | .float x => .string (String.ofList (change (Value.float x).display.toList))
  | .bool b => .string (String.ofList (change (Value.bool b).display.toList))
  | value => value

/-- The JSON text of a value. -/
def toJsonText : Filter :=
  fun value => .string value.jsonText

/-- The value that a JSON text spells, nothing if it spells none. Other values stay. -/
def ofJsonText : Filter
  | .string text => (Value.ofJsonText? text).getD .null
  | value => value

/-- The name of the filter that keeps the automatic filters away. -/
def suppressing : String := "s"

/-- The filters that are always there. -/
def builtins : Dict Filter :=
  Dict.ofList
    [(suppressing, id),
     ("h", onText escapeHtml),
     ("j", onText escapeScript),
     ("u", onText encodeUri),
     ("uc", onText encodeUriComponent),
     ("js", toJsonText),
     ("jp", ofJsonText)]

end Filter

/-- The filters of a render. -/
structure FilterSet where
  /-- All filters by name. -/
  known : Dict Filter := Filter.builtins
  /-- The names of the filters that are applied unless they are kept away, each once. -/
  automatic : List String := ["h"]

namespace FilterSet

/-- Applies the filters of a chain in order. Those that are not known change nothing. -/
def applyChain (filters : FilterSet) (chain : List String) (value : Value) : Value :=
  chain.foldl (fun value name =>
    if name = Filter.suppressing then value
    else
      match filters.known.get? name with
      | some filter => filter value
      | none => value) value

/-- Applies the automatic filters that a chain does not name, unless the chain keeps them away. -/
def applyAutomatic (filters : FilterSet) (chain : List String) (value : Value) : Value :=
  if chain.contains Filter.suppressing then value
  else
    filters.automatic.foldl (fun value name =>
      if chain.contains name then value
      else
        match filters.known.get? name with
        | some filter => filter value
        | none => value) value

/-- A value as a reference with a chain of filters writes it. -/
def apply (filters : FilterSet) (chain : List String) (value : Value) : Value :=
  filters.applyAutomatic chain (filters.applyChain chain value)

/-- The first filter of a chain that is not known. -/
def unknown? (filters : FilterSet) (chain : List Identifier) : Option Identifier :=
  chain.find? fun filter => filter.name ≠ Filter.suppressing && !filters.known.has filter.name

end FilterSet

end Dust
