/-!
# JSON syntax

The tree of a JSON text keeps numbers and strings the way they are written. Reading them as values
is a step of its own, because some written forms have no value: a number may be too large, and the
escapes of a string may spell half of a surrogate pair.
-/

namespace Dust

/-- The tree of a JSON text. -/
inductive Json where
  /-- The word `null`. -/
  | null
  /-- The words `true` and `false`. -/
  | bool (b : Bool)
  /-- A number as written. -/
  | number (written : List Char)
  /-- A string as written between its quotes. -/
  | string (written : List Char)
  /-- The items of an array. -/
  | array (items : List Json)
  /-- The fields of an object in the order written, with their names as written between quotes. -/
  | object (fields : List (List Char × Json))
  deriving Inhabited

end Dust
