import Dust.Json.Basic
import Dust.Json.Quoted

/-!
# Writing JSON

The compact form has no white space. The indented form puts every item and field on a line of its
own, two blanks deeper than the array or object it is in.
-/

namespace Dust.Json

/-- A written string in its quotes. -/
def inQuotes (written : List Char) : List Char :=
  '"' :: written ++ ['"']

/-- The tree of a string. -/
def ofString (text : String) : Json :=
  .string (quote text.toList)

/-- The tree of an object whose field names are texts. -/
def ofFields (fields : List (String × Json)) : Json :=
  .object (fields.map fun field => (quote field.1.toList, field.2))

/-- The text that a string spells. -/
def text? : Json → Option String
  | .string written => (unquote? written).map String.ofList
  | _ => none

mutual

/-- The text of a tree without white space. -/
def compact : Json → List Char
  | .null => ['n', 'u', 'l', 'l']
  | .bool true => ['t', 'r', 'u', 'e']
  | .bool false => ['f', 'a', 'l', 's', 'e']
  | .number written => written
  | .string written => inQuotes written
  | .array items => '[' :: compactItems items ++ [']']
  | .object fields => '{' :: compactFields fields ++ ['}']

/-- The items of an array with commas between them. -/
def compactItems : List Json → List Char
  | [] => []
  | [item] => compact item
  | item :: next :: rest => compact item ++ ',' :: compactItems (next :: rest)

/-- The fields of an object with commas between them. -/
def compactFields : List (List Char × Json) → List Char
  | [] => []
  | [(name, value)] => inQuotes name ++ ':' :: compact value
  | (name, value) :: next :: rest =>
    inQuotes name ++ ':' :: compact value ++ ',' :: compactFields (next :: rest)

end

/-- A new line at a depth. -/
def newLine (depth : Nat) : List Char :=
  '\n' :: List.replicate (2 * depth) ' '

mutual

/-- The text of a tree at a depth, with a line for every item and field. -/
def indented (depth : Nat) : Json → List Char
  | .array items =>
    match items with
    | [] => ['[', ']']
    | item :: rest =>
      '[' :: indentedItems (depth + 1) (item :: rest) ++ newLine depth ++ [']']
  | .object fields =>
    match fields with
    | [] => ['{', '}']
    | field :: rest =>
      '{' :: indentedFields (depth + 1) (field :: rest) ++ newLine depth ++ ['}']
  | json => compact json

/-- The items of an array, each on its own line. -/
def indentedItems (depth : Nat) : List Json → List Char
  | [] => []
  | [item] => newLine depth ++ indented depth item
  | item :: next :: rest =>
    newLine depth ++ indented depth item ++ ',' :: indentedItems depth (next :: rest)

/-- The fields of an object, each on its own line. -/
def indentedFields (depth : Nat) : List (List Char × Json) → List Char
  | [] => []
  | [(name, value)] => newLine depth ++ inQuotes name ++ ':' :: ' ' :: indented depth value
  | (name, value) :: next :: rest =>
    newLine depth ++ inQuotes name ++ ':' :: ' ' :: indented depth value ++
      ',' :: indentedFields depth (next :: rest)

end

end Dust.Json
