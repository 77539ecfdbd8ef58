import Dust.Json.Number
import Dust.Syntax.Tree
import Dust.Value.Json

/-!
# Templates as JSON

Compiled templates can be stored and read back without compiling them again. A record is stored as
an object of its fields, and one of several alternatives as an object with the name of the
alternative as its only field. Reading also takes a record as the array of its fields, ignores
fields it does not know, and does not check that places lie in the source.
-/

namespace Dust

namespace Json

/-- A number that counts something. -/
def ofCount (n : Nat) : Json :=
  ofInt n

/-- An alternative with its content. -/
def ofVariant (name : String) (content : Json) : Json :=
  ofFields [(name, content)]

/-- A value that may be missing. -/
def ofOption {α : Type} (write : α → Json) : Option α → Json
  | none => .null
  | some value => write value

/-- The contents of the fields of a record by their names, where a field may be missing. An array
holds the contents of all fields in order. -/
def fields? (names : List String) : Json → Option (List (Option Json))
  | .array items => if items.length = names.length then some (items.map some) else none
  | .object fields => do
    let named ← fields.mapM fun (written, content) => do
      some (String.ofList (← unquote? written), content)
    names.mapM fun name =>
      match named.filter (·.1 = name) with
      | [] => some none
      | [(_, content)] => some (some content)
      | _ => none
  | _ => none

/-- The name and the content of an alternative. A string is an alternative without content. -/
def variant? : Json → Option (String × Option Json)
  | .string written => do some (String.ofList (← unquote? written), none)
  | .object [(written, content)] => do some (String.ofList (← unquote? written), some content)
  | _ => none

/-- The name of an alternative that has no content. -/
def unit? (json : Json) : Option String :=
  match variant? json with
  | some (name, none) => some name
  | some (name, some .null) => some name
  | _ => none

/-- The items of an array. -/
def items? : Json → Option (List Json)
  | .array items => some items
  | _ => none

/-- The fields of an object that is used as a dictionary. -/
def entries? : Json → Option (List (String × Json))
  | .object fields =>
    fields.mapM fun (written, content) => do some (String.ofList (← unquote? written), content)
  | _ => none

/-- An unsigned integer of 64 bits. -/
def count? : Json → Option Nat
  | .number written =>
    match numeral? written with
    | some (.integer n) => if 0 ≤ n then some n.toNat else none
    | _ => none
  | _ => none

/-- A signed integer of 64 bits. -/
def int64? : Json → Option Int64
  | .number written =>
    match numeral? written with
    | some (.integer n) => Number.int64? n
    | _ => none
  | _ => none

/-- A double, for which an integer is taken too. -/
def double? : Json → Option Float
  | .number written =>
    match numeral? written with
    | some (.integer n) => some (Float.ofInt n)
    | some (.float x) => some x
    | none => none
  | _ => none

/-- A value that may be missing, as a field or as `null`. -/
def optional? {α : Type} (read : Json → Option α) : Option Json → Option (Option α)
  | none => some none
  | some .null => some none
  | some json => (read json).map some

end Json

/-! ### Writing -/

/-- A span as JSON. -/
def Span.toJson (span : Span) : Json :=
  Json.ofFields [("m", Json.ofCount span.start), ("n", Json.ofCount span.stop)]

/-- An identifier as JSON. -/
def Identifier.toJson (identifier : Identifier) : Json :=
  Json.ofFields [("name", Json.ofString identifier.name), ("span", identifier.span.toJson)]

/-- An anchor as JSON. -/
def Anchor.toJson : Anchor → Json
  | relative => Json.ofString "Relative"
  | current => Json.ofString "Current"

namespace Path

mutual

/-- A path as JSON. -/
def toJson : Path → Json
  | ⟨anchor, keys, span⟩ =>
    Json.ofFields
      [("anchor", anchor.toJson), ("keys", .array (keysToJson keys)), ("span", span.toJson)]

/-- A key as JSON. -/
def keyToJson : Key → Json
  | .name name => Json.ofVariant "Name" (Json.ofString name)
  | .index index => Json.ofVariant "Index" (Json.ofCount index)
  | .path path => Json.ofVariant "Expr" (toJson path)

/-- Keys as JSON. -/
def keysToJson : List Key → List Json
  | [] => []
  | key :: rest => keyToJson key :: keysToJson rest

end

end Path

/-- A literal as JSON. -/
def Literal.toJson : Literal → Json
  | string text => Json.ofVariant "String" (Json.ofString text)
  | integer n => Json.ofVariant "Integer" (Json.ofInt n.toInt)
  | float x => Json.ofVariant "Float" (Json.ofFloat x)

/-- A kind of section as JSON. -/
def SectionKind.toJson : SectionKind → Json
  | iterate => Json.ofString "Section"
  | present => Json.ofString "Exists"
  | absent => Json.ofString "NotExists"

namespace Part

mutual

/-- A part as JSON. -/
def toJson : Part → Json
  | .text content => Json.ofVariant "Text" (Json.ofString content)
  | .comment content => Json.ofVariant "Comment" (Json.ofString content)
  | .reference path filters span =>
    Json.ofVariant "Reference" (Json.ofFields
      [("path", path.toJson), ("filters", .array (filters.map Identifier.toJson)),
       ("span", span.toJson)])
  | .element (.test kind key) params main bodies span =>
    Json.ofVariant "Section" (Json.ofFields
      [("kind", kind.toJson), ("key", key.toJson), ("params", .array (paramsToJson params)),
       ("body", mainToJson main), ("bodies", .object (bodiesToJson bodies)),
       ("span", span.toJson)])
  | .element (.helper name) params main bodies span =>
    Json.ofVariant "Helper" (Json.ofFields
      [("name", name.toJson), ("params", .array (paramsToJson params)),
       ("body", mainToJson main), ("bodies", .object (bodiesToJson bodies)),
       ("span", span.toJson)])
  | .block name main =>
    Json.ofVariant "Block" (Json.ofFields [("name", name.toJson), ("body", mainToJson main)])
  | .inclusion target context params span =>
    Json.ofVariant "Partial" (Json.ofFields
      [("name", targetToJson target), ("context", Json.ofOption Path.toJson context),
       ("params", .array (paramsToJson params)), ("span", span.toJson)])

/-- A parameter as JSON. -/
def paramToJson : Param → Json
  | ⟨name, argument⟩ =>
    Json.ofFields [("name", name.toJson), ("value", argumentToJson argument)]

/-- The value of a parameter as JSON. -/
def argumentToJson : Argument → Json
  | .path path => Json.ofVariant "Path" path.toJson
  | .literal literal => Json.ofVariant "Literal" literal.toJson
  | .interpolated body =>
    Json.ofVariant "Interpolated" (Json.ofFields [("parts", .array (partsToJson body))])

/-- The name of an included template as JSON. -/
def targetToJson : Target → Json
  | .static name => Json.ofVariant "Static" (Json.ofString name)
  | .dynamic body =>
    Json.ofVariant "Dynamic" (Json.ofFields [("parts", .array (partsToJson body))])

/-- Parameters as JSON. -/
def paramsToJson : List Param → List Json
  | [] => []
  | param :: rest => paramToJson param :: paramsToJson rest

/-- A main body as JSON. -/
def mainToJson : Option (List Part) → Json
  | none => .null
  | some body => Json.ofFields [("parts", .array (partsToJson body))]

/-- Named bodies as JSON. -/
def bodiesToJson : List (String × List Part) → List (List Char × Json)
  | [] => []
  | (name, body) :: rest =>
    (Json.quote name.toList, Json.ofFields [("parts", .array (partsToJson body))]) ::
      bodiesToJson rest

/-- Parts as JSON. -/
def partsToJson : List Part → List Json
  | [] => []
  | part :: rest => toJson part :: partsToJson rest

end

end Part

/-- A body as JSON. -/
def Body.toJson (body : Body) : Json :=
  Json.ofFields [("parts", .array (Part.partsToJson body))]

/-- A template as JSON. -/
def Template.toJson (template : Template) : Json :=
  Json.ofFields
    [("source", Json.ofString template.source), ("body", template.body.toJson),
     ("blocks", .object (Part.bodiesToJson template.blocks)),
     ("path", Json.ofOption Json.ofString template.path)]

/-! ### Reading

The first argument of a reader is how deep arrays and objects may still be nested. -/

/-- The span that a tree stands for. -/
def Span.ofJson? (room : Nat) (json : Json) : Option Span :=
  match room with
  | 0 => none
  | _ + 1 => do
    let [start, stop] ← Json.fields? ["m", "n"] json | none
    some ⟨← Json.count? (← start), ← Json.count? (← stop)⟩

/-- The identifier that a tree stands for. -/
def Identifier.ofJson? (room : Nat) (json : Json) : Option Identifier :=
  match room with
  | 0 => none
  | room + 1 => do
    let [name, span] ← Json.fields? ["name", "span"] json | none
    some ⟨← Json.text? (← name), ← Span.ofJson? room (← span)⟩

/-- The anchor that a tree stands for. -/
def Anchor.ofJson? (json : Json) : Option Anchor :=
  match Json.unit? json with
  | some "Relative" => some relative
  | some "Current" => some current
  | _ => none

/-- The kind of section that a tree stands for. -/
def SectionKind.ofJson? (json : Json) : Option SectionKind :=
  match Json.unit? json with
  | some "Section" => some iterate
  | some "Exists" => some present
  | some "NotExists" => some absent
  | _ => none

namespace Path

mutual

/-- The path that a tree stands for. -/
def ofJson? (room : Nat) (json : Json) : Option Path :=
  match room with
  | 0 => none
  | room + 1 => do
    let [anchor, keys, span] ← Json.fields? ["anchor", "keys", "span"] json | none
    some ⟨← Anchor.ofJson? (← anchor), ← keysOfJson? room (← keys), ← Span.ofJson? room (← span)⟩

/-- The key that a tree stands for. -/
def keyOfJson? (room : Nat) (json : Json) : Option Key :=
  match room with
  | 0 => none
  | room + 1 => do
    let (kind, content) ← Json.variant? json
    match kind with
    | "Name" => do some (.name (← Json.text? (← content)))
    | "Index" => do some (.index (← Json.count? (← content)))
    | "Expr" => do some (.path (← ofJson? room (← content)))
    | _ => none

/-- The keys that a tree stands for. -/
def keysOfJson? (room : Nat) (json : Json) : Option (List Key) :=
  match room with
  | 0 => none
  | room + 1 => do (← Json.items? json).mapM (keyOfJson? room)

end

end Path

/-- The identifiers that a tree stands for. -/
def Identifier.listOfJson? (room : Nat) (json : Json) : Option (List Identifier) :=
  match room with
  | 0 => none
  | room + 1 => do (← Json.items? json).mapM (Identifier.ofJson? room)

/-- The literal that a tree stands for. -/
def Literal.ofJson? (room : Nat) (json : Json) : Option Literal :=
  match room with
  | 0 => none
  | _ + 1 => do
    let (kind, content) ← Json.variant? json
    match kind with
    | "String" => do some (.string (← Json.text? (← content)))
    | "Integer" => do some (.integer (← Json.int64? (← content)))
    | "Float" => do some (.float (← Json.double? (← content)))
    | _ => none

namespace Part

mutual

/-- The part that a tree stands for. -/
def ofJson? (room : Nat) (json : Json) : Option Part :=
  match room with
  | 0 => none
  | room + 1 => do
    let (kind, content) ← Json.variant? json
    ofVariant? room kind (← content)

/-- The part of a kind whose content is given. -/
def ofVariant? (room : Nat) (kind : String) (content : Json) : Option Part :=
  match room with
  | 0 => ofText? kind content
  | room + 1 => do
    match kind with
    | "Reference" =>
      let [path, filters, span] ← Json.fields? ["path", "filters", "span"] content | none
      some (.reference (← Path.ofJson? room (← path))
        (← Identifier.listOfJson? room (← filters)) (← Span.ofJson? room (← span)))
    | "Section" =>
      let [test, key, params, main, bodies, span] ←
        Json.fields? ["kind", "key", "params", "body", "bodies", "span"] content | none
      some (.element (.test (← SectionKind.ofJson? (← test)) (← Path.ofJson? room (← key)))
        (← paramsOfJson? room (← params)) (← Json.optional? (bodyOfJson? room) main)
        (← bodiesOfJson? room (← bodies)) (← Span.ofJson? room (← span)))
    | "Helper" =>
      let [name, params, main, bodies, span] ←
        Json.fields? ["name", "params", "body", "bodies", "span"] content | none
      some (.element (.helper (← Identifier.ofJson? room (← name)))
        (← paramsOfJson? room (← params)) (← Json.optional? (bodyOfJson? room) main)
        (← bodiesOfJson? room (← bodies)) (← Span.ofJson? room (← span)))
    | "Block" =>
      let [name, main] ← Json.fields? ["name", "body"] content | none
      some (.block (← Identifier.ofJson? room (← name))
        (← Json.optional? (bodyOfJson? room) main))
    | "Partial" =>
      let [target, context, params, span] ←
        Json.fields? ["name", "context", "params", "span"] content | none
      some (.inclusion (← targetOfJson? room (← target))
        (← Json.optional? (Path.ofJson? room) context)
        (← paramsOfJson? room (← params)) (← Span.ofJson? room (← span)))
    | _ => ofText? kind content
where
  /-- The part of a kind whose content is a text. -/
  ofText? (kind : String) (content : Json) : Option Part :=
    match kind with
    | "Text" => (Json.text? content).map .text
    | "Comment" => (Json.text? content).map .comment
    | _ => none

/-- The parameter that a tree stands for. -/
def paramOfJson? (room : Nat) (json : Json) : Option Param :=
  match room with
  | 0 => none
  | room + 1 => do
    let [name, argument] ← Json.fields? ["name", "value"] json | none
    some ⟨← Identifier.ofJson? room (← name), ← argumentOfJson? room (← argument)⟩

/-- The parameters that a tree stands for. -/
def paramsOfJson? (room : Nat) (json : Json) : Option (List Param) :=
  match room with
  | 0 => none
  | room + 1 => do (← Json.items? json).mapM (paramOfJson? room)

/-- The value of a parameter that a tree stands for. -/
def argumentOfJson? (room : Nat) (json : Json) : Option Argument :=
  match room with
  | 0 => none
  | room + 1 => do
    let (kind, content) ← Json.variant? json
    match kind with
    | "Path" => do some (.path (← Path.ofJson? room (← content)))
    | "Literal" => do some (.literal (← Literal.ofJson? room (← content)))
    | "Interpolated" => do some (.interpolated (← bodyOfJson? room (← content)))
    | _ => none

/-- The name of an included template that a tree stands for. -/
def targetOfJson? (room : Nat) (json : Json) : Option Target :=
  match room with
  | 0 => none
  | room + 1 => do
    let (kind, content) ← Json.variant? json
    match kind with
    | "Static" => do some (.static (← Json.text? (← content)))
    | "Dynamic" => do some (.dynamic (← bodyOfJson? room (← content)))
    | _ => none

/-- The body that a tree stands for. -/
def bodyOfJson? (room : Nat) (json : Json) : Option (List Part) :=
  match room with
  | 0 => none
  | room + 1 => do
    let [parts] ← Json.fields? ["parts"] json | none
    partsOfJson? room (← parts)

/-- The parts that a tree stands for. -/
def partsOfJson? (room : Nat) (json : Json) : Option (List Part) :=
  match room with
  | 0 => none
  | room + 1 => do (← Json.items? json).mapM (ofJson? room)

/-- The named bodies that a tree stands for. -/
def bodiesOfJson? (room : Nat) (json : Json) : Option (Dict (List Part)) :=
  match room with
  | 0 => none
  | room + 1 => do
    let entries ← Json.entries? json
    let bodies ← entries.mapM fun (name, content) => do
      some (name, ← bodyOfJson? room content)
    some (Dict.ofList bodies)

end

end Part

/-- The template that a tree stands for. -/
def Template.ofJson? (room : Nat) (json : Json) : Option Template :=
  match room with
  | 0 => none
  | room + 1 => do
    let [source, body, blocks, path] ←
      Json.fields? ["source", "body", "blocks", "path"] json | none
    some
      { source := ← Json.text? (← source)
        body := ← Part.bodyOfJson? room (← body)
        blocks := ← Part.bodiesOfJson? room (← blocks)
        path := ← Json.optional? Json.text? path }

namespace Template

/-- The JSON text of templates by name. -/
def archive (templates : Dict Template) : String :=
  String.ofList (Json.compact
    (Json.ofFields (templates.map fun (name, template) => (name, template.toJson))))

/-- The templates by name that a JSON text holds. -/
def ofArchive? (text : String) : Option (Dict Template) := do
  let entries ← Json.entries? (← Json.parse? text.toList)
  let templates ← entries.mapM fun (name, content) => do
    some (name, ← Template.ofJson? (Json.maxDepth - 1) content)
  some (Dict.ofList templates)

end Template

end Dust
