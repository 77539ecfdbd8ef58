import Dust.Json.Number
import Dust.Json.Reader
import Dust.Json.Writer
import Dust.Value.Basic

/-!
# Values as JSON

Every value has a JSON text, in which infinities and what is not a number become `null`. Reading
accepts arrays and objects up to a depth, takes integers beyond 64 bits as doubles, and keeps the
last of several fields of one name.
-/

namespace Dust

/-- The text of a double, which is `null` if it is not finite. -/
def Json.ofFloat (x : Float) : Json :=
  if x.isFinite then .number (Number.Layout.json.text x) else .null

/-- An integer. -/
def Json.ofInt (n : Int) : Json :=
  .number (Number.intText n)

/-- How deep arrays and objects may be nested in a text that is read. -/
def Json.maxDepth : Nat := 127

namespace Value

mutual

/-- The JSON tree of a value. -/
def toJson : Value → Json
  | null => .null
  | bool b => .bool b
  | integer n => Json.ofInt n.toInt
  | float x => Json.ofFloat x
  | string text => Json.ofString text
  | list items => .array (toJsonItems items)
  | map entries => .object (toJsonFields entries)

/-- The JSON trees of a list of values. -/
def toJsonItems : List Value → List Json
  | [] => []
  | item :: rest => toJson item :: toJsonItems rest

/-- The JSON fields of a dictionary of values. -/
def toJsonFields : List (String × Value) → List (List Char × Json)
  | [] => []
  | (key, value) :: rest => (Json.quote key.toList, toJson value) :: toJsonFields rest

end

/-- The value of a number as written. -/
def ofNumeral : Json.Numeral → Value
  | .float x => float x
  | .integer n =>
    match Number.int64? n with
    | some n => integer n
    | none => float (Float.ofInt n)

mutual

/-- The value of a tree in which arrays and objects may be nested as deep as the given room. -/
def ofJson? (room : Nat) : Json → Option Value
  | .null => some null
  | .bool b => some (bool b)
  | .number written => (Json.numeral? written).map ofNumeral
  | .string written => (Json.unquote? written).map fun text => string (String.ofList text)
  | .array items =>
    match room with
    | 0 => none
    | room + 1 => (ofJsonItems? room items).map list
  | .object fields =>
    match room with
    | 0 => none
    | room + 1 => (ofJsonFields? room fields).map fun entries => map (Dict.ofList entries)

/-- The values of the items of an array. -/
def ofJsonItems? (room : Nat) : List Json → Option (List Value)
  | [] => some []
  | item :: rest => do
    let value ← ofJson? room item
    let values ← ofJsonItems? room rest
    some (value :: values)

/-- The values of the fields of an object in the order written. -/
def ofJsonFields? (room : Nat) : List (List Char × Json) → Option (List (String × Value))
  | [] => some []
  | (name, field) :: rest => do
    let key ← Json.unquote? name
    let value ← ofJson? room field
    let entries ← ofJsonFields? room rest
    some ((String.ofList key, value) :: entries)

end

/-- The compact JSON text of a value. -/
def jsonText (value : Value) : String :=
  String.ofList (Json.compact value.toJson)

/-- The JSON text of a value over several lines. -/
def indentedJsonText (value : Value) : String :=
  String.ofList (Json.indented 0 value.toJson)

/-- The value that a JSON text spells. -/
def ofJsonText? (text : String) : Option Value := do
  ofJson? Json.maxDepth (← Json.parse? text.toList)

end Value

end Dust
