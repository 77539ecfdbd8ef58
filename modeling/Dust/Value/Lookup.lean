import Dust.Value.Basic

/-!
# Looking into values

A map is asked for a key and a list for a position. A key that spells a position finds the item of
a list, and a position finds the entry of a map under its decimal digits.
-/

namespace Dust.Value

/-- The item at a position, or the entry of a map under the digits of the position. -/
def item? : Value → Nat → Option Value
  | list items, index => items[index]?
  | map entries, index => Dict.get? entries (String.ofList (Number.natText index))
  | _, _ => none

/-- The entry under a key, or the item of a list at the position that the key spells. -/
def get? : Value → String → Option Value
  | map entries, key => Dict.get? entries key
  | list items, key => do items[← Number.readIndex? key.toList]?
  | _, _ => none

end Dust.Value
