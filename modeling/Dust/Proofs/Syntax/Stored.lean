import Dust.Proofs.Json.Record
import Dust.Proofs.Syntax.Pieces

/-!
# Templates read back from JSON

Reading the tree that stands for a template gives a template exactly if the tree is not nested too
deep and all numbers in it can be read. What is read is the template itself, but for the doubles,
which are what their texts are read as, and for the named bodies, which come in the order of their
names. The statement for every kind of piece is one equivalence, so that the pieces around it are
rewritten with it.
-/

namespace Dust

/-- What a double becomes when it is written and read. -/
def rereadFloat (x : Float) : Float :=
  (Json.double? (Json.ofFloat x)).getD x

/-- A span whose bounds can be read. -/
def Span.IsStorable (span : Span) : Prop :=
  span.start < Json.unsignedBound ∧ span.stop < Json.unsignedBound

/-- Places and positions fit 64 bits, and doubles are finite. -/
def storable : Demand where
  span := Span.IsStorable
  name identifier := identifier.span.IsStorable
  index index := index < Json.unsignedBound
  float x := x.isFinite = true

/-- A literal with its double as it is read. -/
def Literal.reread : Literal → Literal
  | float x => float (rereadFloat x)
  | literal => literal

namespace Part

mutual

/-- A part as it is read. -/
def reread : Part → Part
  | .element head params main bodies span =>
    .element head (rereadParams params) (rereadMain main) (Dict.ofList (rereadBodies bodies)) span
  | .block name main => .block name (rereadMain main)
  | .inclusion target context params span =>
    .inclusion (rereadTarget target) context (rereadParams params) span
  | part => part

/-- A parameter as it is read. -/
def rereadParam : Param → Param
  | ⟨name, argument⟩ => ⟨name, rereadArgument argument⟩

/-- The value of a parameter as it is read. -/
def rereadArgument : Argument → Argument
  | .path path => .path path
  | .literal literal => .literal literal.reread
  | .interpolated body => .interpolated (rereadAll body)

/-- The name of an included template as it is read. -/
def rereadTarget : Target → Target
  | .static name => .static name
  | .dynamic body => .dynamic (rereadAll body)

/-- Parameters as they are read. -/
def rereadParams : List Param → List Param
  | [] => []
  | param :: rest => rereadParam param :: rereadParams rest

/-- A main body as it is read. -/
def rereadMain : Option (List Part) → Option (List Part)
  | none => none
  | some body => some (rereadAll body)

/-- Named bodies as they are read. -/
def rereadBodies : List (String × List Part) → List (String × List Part)
  | [] => []
  | (name, body) :: rest => (name, rereadAll body) :: rereadBodies rest

/-- Parts as they are read. -/
def rereadAll : List Part → List Part
  | [] => []
  | part :: rest => reread part :: rereadAll rest

end

end Part

/-- A template as it is read. -/
def Template.reread (template : Template) : Template :=
  { template with
    body := Part.rereadAll template.body
    blocks := Dict.ofList (Part.rereadBodies template.blocks) }

variable {room : Nat}

/-- When the tree of a span is read, and as what. -/
@[simp]
theorem Span.ofJson?_toJson {span read : Span} :
    Span.ofJson? room span.toJson = some read ↔
      span.toJson.depth ≤ room ∧ span.IsStorable ∧ span = read := by
  cases room with
  | zero => simp [Span.ofJson?, Span.toJson]
  | succ room =>
    cases span
    simp [Span.ofJson?, Span.toJson, Option.bind_eq_some_iff, Span.IsStorable, and_assoc]

/-- When the tree of an identifier is read, and as what. -/
@[simp]
theorem Identifier.ofJson?_toJson {identifier read : Identifier} :
    Identifier.ofJson? room identifier.toJson = some read ↔
      identifier.toJson.depth ≤ room ∧ storable.name identifier ∧ identifier = read := by
  cases room with
  | zero => simp [Identifier.ofJson?, Identifier.toJson]
  | succ room =>
    cases identifier
    simp [Identifier.ofJson?, Identifier.toJson, Option.bind_eq_some_iff, storable, and_assoc]

/-- The tree of an anchor is read as the anchor. -/
@[simp]
theorem Anchor.ofJson?_toJson (anchor : Anchor) : Anchor.ofJson? anchor.toJson = some anchor := by
  cases anchor <;> simp [Anchor.ofJson?, Anchor.toJson]

/-- The tree of a kind of section is read as the kind. -/
@[simp]
theorem SectionKind.ofJson?_toJson (kind : SectionKind) :
    SectionKind.ofJson? kind.toJson = some kind := by
  cases kind <;> simp [SectionKind.ofJson?, SectionKind.toJson]

/-- The tree of an anchor takes no room. -/
@[simp]
theorem Anchor.depth_toJson (anchor : Anchor) : anchor.toJson.depth = 0 := by
  cases anchor <;> rfl

/-- The tree of a kind of section takes no room. -/
@[simp]
theorem SectionKind.depth_toJson (kind : SectionKind) : kind.toJson.depth = 0 := by
  cases kind <;> rfl

namespace Path

mutual

/-- When the tree of a path is read, and as what. -/
theorem ofJson?_toJson (room : Nat) (path read : Path) :
    ofJson? room path.toJson = some read ↔
      path.toJson.depth ≤ room ∧ path.Meets storable ∧ path = read := by
  match room, path with
  | 0, ⟨anchor, keys, span⟩ => simp [ofJson?, toJson]
  | room + 1, ⟨anchor, keys, span⟩ =>
    simp [ofJson?, toJson, Option.bind_eq_some_iff, Path.Meets, storable,
      keysOfJson?_keysToJson room keys, and_assoc, and_left_comm]

/-- When the tree of a key is read, and as what. -/
theorem keyOfJson?_keyToJson (room : Nat) (key read : Key) :
    keyOfJson? room (keyToJson key) = some read ↔
      (keyToJson key).depth ≤ room ∧ key.Meets storable ∧ key = read := by
  match room, key with
  | 0, key => cases key <;> simp [keyOfJson?, keyToJson]
  | room + 1, .name name => simp [keyOfJson?, keyToJson, Key.Meets]
  | room + 1, .index index =>
    simp [keyOfJson?, keyToJson, Key.Meets, storable, Option.bind_eq_some_iff, and_assoc]
  | room + 1, .path path =>
    simp [keyOfJson?, keyToJson, Key.Meets, Option.bind_eq_some_iff, ofJson?_toJson room path,
      and_assoc]

/-- When the tree of some keys is read, and as what. -/
theorem keysOfJson?_keysToJson (room : Nat) (keys read : List Key) :
    keysOfJson? room (.array (keysToJson keys)) = some read ↔
      (Json.array (keysToJson keys)).depth ≤ room ∧ KeysMeet storable keys ∧ keys = read := by
  match room with
  | 0 => simp [keysOfJson?]
  | room + 1 =>
    simp [keysOfJson?, Json.items?, mapM_keysToJson room keys]

/-- When the trees of some keys are read, and as what. -/
theorem mapM_keysToJson (room : Nat) (keys read : List Key) :
    (keysToJson keys).mapM (keyOfJson? room) = some read ↔
      (∀ json ∈ keysToJson keys, json.depth ≤ room) ∧ KeysMeet storable keys ∧ keys = read := by
  match keys with
  | [] => simp [keysToJson, KeysMeet]
  | key :: rest =>
    simp [keysToJson, Option.bind_eq_some_iff, keyOfJson?_keyToJson room key,
      mapM_keysToJson room rest, KeysMeet, and_assoc, and_left_comm]

end

end Path

/-- When the tree of some identifiers is read, and as what. -/
@[simp]
theorem Identifier.listOfJson?_toJson {identifiers read : List Identifier} :
    Identifier.listOfJson? room (.array (identifiers.map Identifier.toJson)) = some read ↔
      (Json.array (identifiers.map Identifier.toJson)).depth ≤ room ∧
        (∀ identifier ∈ identifiers, storable.name identifier) ∧ identifiers = read := by
  cases room with
  | zero => simp [Identifier.listOfJson?]
  | succ room =>
    simp only [Identifier.listOfJson?, Json.items?, Json.depth_array_le, Option.bind_eq_bind,
      Option.bind_some]
    induction identifiers generalizing read with
    | nil => simp
    | cons first rest induction =>
      simp only [List.map_cons, List.mapM_cons, Option.bind_eq_bind, Option.bind_eq_some_iff,
        Identifier.ofJson?_toJson, induction]
      simp [and_assoc, and_left_comm]

/-- When the text of a double is read, and as what. -/
theorem double?_ofFloat {x y : Float} :
    Json.double? (Json.ofFloat x) = some y ↔ storable.float x ∧ rereadFloat x = y := by
  simp only [storable, rereadFloat, ← Json.double?_ofFloat_isSome]
  cases Json.double? (Json.ofFloat x) <;> simp

/-- When the tree of a literal is read, and as what. -/
@[simp]
theorem Literal.ofJson?_toJson {literal read : Literal} :
    Literal.ofJson? room literal.toJson = some read ↔
      literal.toJson.depth ≤ room ∧ literal.Meets storable ∧ literal.reread = read := by
  cases room with
  | zero => cases literal <;> simp [Literal.ofJson?, Literal.toJson]
  | succ room =>
    cases literal with
    | string text => simp [Literal.ofJson?, Literal.toJson, Literal.Meets, Literal.reread]
    | integer n => simp [Literal.ofJson?, Literal.toJson, Literal.Meets, Literal.reread]
    | float x =>
      simp [Literal.ofJson?, Literal.toJson, Literal.Meets, Literal.reread, double?_ofFloat,
        Option.bind_eq_some_iff, and_assoc]

/-- What is not missing is read as such. -/
theorem optional?_ofFields {α : Type} {read : Json → Option α} {fields : List (String × Json)}
    {value : Option α} :
    Json.optional? read (some (Json.ofFields fields)) = some value ↔
      ∃ content, read (Json.ofFields fields) = some content ∧ some content = value := by
  simp [Json.optional?, Json.ofFields]

/-- When the tree of a path that may be missing is read, and as what. -/
@[simp]
theorem Path.optional?_toJson {context read : Option Path} :
    Json.optional? (Path.ofJson? room) (some (Json.ofOption Path.toJson context)) = some read ↔
      (Json.ofOption Path.toJson context).depth ≤ room ∧
        (∀ path ∈ context, path.Meets storable) ∧ context = read := by
  cases context with
  | none => simp [Json.ofOption, Json.optional?, Json.depth]
  | some path =>
    have inner := Path.ofJson?_toJson room path
    obtain ⟨anchor, keys, span⟩ := path
    simp only [Path.toJson] at inner
    simp [Json.ofOption, Path.toJson, optional?_ofFields, inner, and_assoc]

namespace Part

/-- Named bodies are written as a dictionary of bodies. -/
theorem object_bodiesToJson (bodies : List (String × List Part)) :
    Json.object (bodiesToJson bodies) =
      Json.ofFields (bodies.map fun entry => (entry.1, Body.toJson entry.2)) := by
  rw [Json.ofFields, Json.object.injEq]
  induction bodies with
  | nil => rfl
  | cons entry rest induction => rw [bodiesToJson, induction]; rfl

/-- The tree of an alternative is read by its kind. -/
theorem ofJson?_ofVariant (room : Nat) (kind : String) (content : Json) :
    ofJson? (room + 1) (Json.ofVariant kind content) = ofVariant? room kind content := by
  simp only [ofJson?, Json.variant?_ofVariant, Option.bind_eq_bind, Option.bind_some]

/-- No room is left to read the tree of a part. -/
theorem ofJson?_toJson_zero {part read : Part} :
    ofJson? 0 part.toJson = some read ↔
      part.toJson.depth ≤ 0 ∧ part.Meets storable ∧ part.reread = read := by
  rcases part with _ | _ | _ | ⟨_ | _⟩ | _ | _ <;>
    simp only [ofJson?, toJson, Nat.le_zero_eq, Json.depth_ofVariant_ne_zero, false_and,
      reduceCtorEq]

-- The kinds of parts are known from here on, so their trees and what is demanded of them compute.
attribute [local simp] toJson ofVariant? ofVariant?.ofText? Part.Meets storable reread

/-- With room for its kind alone, only the tree of a part without fields is read. -/
theorem ofJson?_toJson_one {part read : Part} :
    ofJson? 1 part.toJson = some read ↔
      part.toJson.depth ≤ 1 ∧ part.Meets storable ∧ part.reread = read := by
  rcases part with _ | _ | _ | ⟨_ | _⟩ | _ | _ <;> simp [ofJson?_ofVariant]

section Kinds

variable {room : Nat} {span : Span} {read : Part}

/-- When the tree of a text is read, and as what. -/
theorem ofJson?_toJson_text {content : String} :
    ofJson? (room + 2) (Part.text content).toJson = some read ↔
      (Part.text content).toJson.depth ≤ room + 2 ∧ (Part.text content).Meets storable ∧
        (Part.text content).reread = read := by
  rw [toJson, ofJson?_ofVariant]
  simp

/-- When the tree of a comment is read, and as what. -/
theorem ofJson?_toJson_comment {content : String} :
    ofJson? (room + 2) (Part.comment content).toJson = some read ↔
      (Part.comment content).toJson.depth ≤ room + 2 ∧ (Part.comment content).Meets storable ∧
        (Part.comment content).reread = read := by
  rw [toJson, ofJson?_ofVariant]
  simp

/-- When the tree of a reference is read, and as what. -/
theorem ofJson?_toJson_reference {path : Path} {filters : List Identifier} :
    ofJson? (room + 2) (Part.reference path filters span).toJson = some read ↔
      (Part.reference path filters span).toJson.depth ≤ room + 2 ∧
        (Part.reference path filters span).Meets storable ∧
        (Part.reference path filters span).reread = read := by
  rw [toJson, ofJson?_ofVariant]
  simp only [ofVariant?]
  rw [Json.fields?_ofFields (by exact rfl) (by simp)]
  simp only [List.map_cons, List.map_nil, Option.bind_eq_bind, Option.bind_some,
    Option.bind_eq_some_iff, Path.ofJson?_toJson room path, Identifier.listOfJson?_toJson,
    Span.ofJson?_toJson]
  simp [and_assoc, and_left_comm]

variable {params : List Param} {main : Option (List Part)}
  {bodies : List (String × List Part)}
  (paramsRead : ∀ read, paramsOfJson? room (.array (paramsToJson params)) = some read ↔
    (Json.array (paramsToJson params)).depth ≤ room ∧ ParamsMeet storable params ∧
      rereadParams params = read)
  (mainRead : ∀ read, Json.optional? (bodyOfJson? room) (some (mainToJson main)) = some read ↔
    (mainToJson main).depth ≤ room ∧ MainMeets storable main ∧ rereadMain main = read)
  (bodiesRead : ∀ read, bodiesOfJson? room (.object (bodiesToJson bodies)) = some read ↔
    (Json.object (bodiesToJson bodies)).depth ≤ room ∧ BodiesMeet storable bodies ∧
      Dict.ofList (rereadBodies bodies) = read)

include mainRead in
/-- When the tree of a block is read, and as what. -/
theorem ofJson?_toJson_block {name : Identifier} :
    ofJson? (room + 2) (Part.block name main).toJson = some read ↔
      (Part.block name main).toJson.depth ≤ room + 2 ∧ (Part.block name main).Meets storable ∧
        (Part.block name main).reread = read := by
  rw [toJson, ofJson?_ofVariant]
  simp only [ofVariant?]
  rw [Json.fields?_ofFields (by exact rfl) (by simp)]
  simp only [List.map_cons, List.map_nil, Option.bind_eq_bind, Option.bind_some,
    Option.bind_eq_some_iff, Identifier.ofJson?_toJson, mainRead]
  simp [and_assoc, and_left_comm]

include paramsRead

include mainRead bodiesRead in
/-- When the tree of a section is read, and as what. -/
theorem ofJson?_toJson_test {kind : SectionKind} {key : Path} :
    ofJson? (room + 2) (Part.element (.test kind key) params main bodies span).toJson = some read ↔
      (Part.element (.test kind key) params main bodies span).toJson.depth ≤ room + 2 ∧
        (Part.element (.test kind key) params main bodies span).Meets storable ∧
        (Part.element (.test kind key) params main bodies span).reread = read := by
  rw [toJson, ofJson?_ofVariant]
  simp only [ofVariant?]
  rw [Json.fields?_ofFields (by exact rfl) (by simp)]
  simp only [List.map_cons, List.map_nil, Option.bind_eq_bind, Option.bind_some,
    Option.bind_eq_some_iff, SectionKind.ofJson?_toJson, Path.ofJson?_toJson room key, paramsRead,
    mainRead, bodiesRead, Span.ofJson?_toJson]
  simp [Head.Meets, and_assoc, and_left_comm]

include mainRead bodiesRead in
/-- When the tree of a call of a helper is read, and as what. -/
theorem ofJson?_toJson_helper {name : Identifier} :
    ofJson? (room + 2) (Part.element (.helper name) params main bodies span).toJson = some read ↔
      (Part.element (.helper name) params main bodies span).toJson.depth ≤ room + 2 ∧
        (Part.element (.helper name) params main bodies span).Meets storable ∧
        (Part.element (.helper name) params main bodies span).reread = read := by
  rw [toJson, ofJson?_ofVariant]
  simp only [ofVariant?]
  rw [Json.fields?_ofFields (by exact rfl) (by simp)]
  simp only [List.map_cons, List.map_nil, Option.bind_eq_bind, Option.bind_some,
    Option.bind_eq_some_iff, Identifier.ofJson?_toJson, paramsRead, mainRead, bodiesRead,
    Span.ofJson?_toJson]
  simp [Head.Meets, and_assoc, and_left_comm]

/-- When the tree of a partial is read, and as what. -/
theorem ofJson?_toJson_inclusion {target : Target} {context : Option Path}
    (targetRead : ∀ read, targetOfJson? room (targetToJson target) = some read ↔
      (targetToJson target).depth ≤ room ∧ target.Meets storable ∧ rereadTarget target = read) :
    ofJson? (room + 2) (Part.inclusion target context params span).toJson = some read ↔
      (Part.inclusion target context params span).toJson.depth ≤ room + 2 ∧
        (Part.inclusion target context params span).Meets storable ∧
        (Part.inclusion target context params span).reread = read := by
  rw [toJson, ofJson?_ofVariant]
  simp only [ofVariant?]
  rw [Json.fields?_ofFields (by exact rfl) (by simp)]
  simp only [List.map_cons, List.map_nil, Option.bind_eq_bind, Option.bind_some,
    Option.bind_eq_some_iff, targetRead, Path.optional?_toJson, paramsRead, Span.ofJson?_toJson]
  simp [and_assoc, and_left_comm]

end Kinds

mutual

/-- When the tree of a part is read, and as what. -/
theorem ofJson?_toJson (room : Nat) (part read : Part) :
    ofJson? room part.toJson = some read ↔
      part.toJson.depth ≤ room ∧ part.Meets storable ∧ part.reread = read := by
  match room, part with
  | 0, part => exact ofJson?_toJson_zero
  | 1, part => exact ofJson?_toJson_one
  | room + 2, .text content => exact ofJson?_toJson_text
  | room + 2, .comment content => exact ofJson?_toJson_comment
  | room + 2, .reference path filters span => exact ofJson?_toJson_reference
  | room + 2, .element (.test kind key) params main bodies span =>
    exact ofJson?_toJson_test (paramsOfJson?_paramsToJson room params)
      (optional?_mainToJson room main) (bodiesOfJson?_bodiesToJson room bodies)
  | room + 2, .element (.helper name) params main bodies span =>
    exact ofJson?_toJson_helper (paramsOfJson?_paramsToJson room params)
      (optional?_mainToJson room main) (bodiesOfJson?_bodiesToJson room bodies)
  | room + 2, .block name main =>
    exact ofJson?_toJson_block (optional?_mainToJson room main)
  | room + 2, .inclusion target context params span =>
    exact ofJson?_toJson_inclusion (paramsOfJson?_paramsToJson room params)
      (targetOfJson?_targetToJson room target)

/-- When the tree of a parameter is read, and as what. -/
theorem paramOfJson?_paramToJson (room : Nat) (param read : Param) :
    paramOfJson? room (paramToJson param) = some read ↔
      (paramToJson param).depth ≤ room ∧ param.Meets storable ∧ rereadParam param = read := by
  match room, param with
  | 0, ⟨name, argument⟩ => simp [paramOfJson?, paramToJson]
  | room + 1, ⟨name, argument⟩ =>
    simp [paramOfJson?, paramToJson, Param.Meets, rereadParam, Option.bind_eq_some_iff,
      argumentOfJson?_argumentToJson room argument, and_assoc, and_left_comm]

/-- When the tree of the value of a parameter is read, and as what. -/
theorem argumentOfJson?_argumentToJson (room : Nat) (argument read : Argument) :
    argumentOfJson? room (argumentToJson argument) = some read ↔
      (argumentToJson argument).depth ≤ room ∧ argument.Meets storable ∧
        rereadArgument argument = read := by
  match room, argument with
  | 0, argument => cases argument <;> simp [argumentOfJson?, argumentToJson]
  | room + 1, .path path =>
    simp [argumentOfJson?, argumentToJson, Argument.Meets, rereadArgument, Option.bind_eq_some_iff,
      Path.ofJson?_toJson room path, and_assoc]
  | room + 1, .literal literal =>
    simp [argumentOfJson?, argumentToJson, Argument.Meets, rereadArgument, Option.bind_eq_some_iff,
      and_assoc]
  | room + 1, .interpolated body =>
    simp [argumentOfJson?, argumentToJson, Argument.Meets, rereadArgument, Option.bind_eq_some_iff,
      bodyOfJson?_toJson room body, and_assoc]

/-- When the tree of the name of an included template is read, and as what. -/
theorem targetOfJson?_targetToJson (room : Nat) (target read : Target) :
    targetOfJson? room (targetToJson target) = some read ↔
      (targetToJson target).depth ≤ room ∧ target.Meets storable ∧
        rereadTarget target = read := by
  match room, target with
  | 0, target => cases target <;> simp [targetOfJson?, targetToJson]
  | room + 1, .static name => simp [targetOfJson?, targetToJson, Target.Meets, rereadTarget]
  | room + 1, .dynamic body =>
    simp [targetOfJson?, targetToJson, Target.Meets, rereadTarget, Option.bind_eq_some_iff,
      bodyOfJson?_toJson room body, and_assoc]

/-- When the tree of parameters is read, and as what. -/
theorem paramsOfJson?_paramsToJson (room : Nat) (params read : List Param) :
    paramsOfJson? room (.array (paramsToJson params)) = some read ↔
      (Json.array (paramsToJson params)).depth ≤ room ∧ ParamsMeet storable params ∧
        rereadParams params = read := by
  match room with
  | 0 => simp [paramsOfJson?]
  | room + 1 => simp [paramsOfJson?, Json.items?, mapM_paramsToJson room params]

/-- When the trees of parameters are read, and as what. -/
theorem mapM_paramsToJson (room : Nat) (params read : List Param) :
    (paramsToJson params).mapM (paramOfJson? room) = some read ↔
      (∀ json ∈ paramsToJson params, json.depth ≤ room) ∧ ParamsMeet storable params ∧
        rereadParams params = read := by
  match params with
  | [] => simp [paramsToJson, ParamsMeet, rereadParams]
  | param :: rest =>
    simp [paramsToJson, Option.bind_eq_some_iff, paramOfJson?_paramToJson room param,
      mapM_paramsToJson room rest, ParamsMeet, rereadParams, and_assoc, and_left_comm]

/-- When the tree of a main body is read, and as what. -/
theorem optional?_mainToJson (room : Nat) (main read : Option (List Part)) :
    Json.optional? (bodyOfJson? room) (some (mainToJson main)) = some read ↔
      (mainToJson main).depth ≤ room ∧ MainMeets storable main ∧ rereadMain main = read := by
  match main with
  | none => simp [mainToJson, Json.optional?, MainMeets, rereadMain, Json.depth]
  | some body =>
    simp [mainToJson, MainMeets, rereadMain, optional?_ofFields, bodyOfJson?_toJson room body,
      and_assoc]

/-- When the tree of a body is read, and as what. -/
theorem bodyOfJson?_toJson (room : Nat) (body read : List Part) :
    bodyOfJson? room (Json.ofFields [("parts", .array (partsToJson body))]) = some read ↔
      (Json.ofFields [("parts", .array (partsToJson body))]).depth ≤ room ∧
        AllMeet storable body ∧ rereadAll body = read := by
  match room with
  | 0 => simp [bodyOfJson?]
  | room + 1 => simp [bodyOfJson?, partsOfJson?_partsToJson room body]

/-- When the tree of parts is read, and as what. -/
theorem partsOfJson?_partsToJson (room : Nat) (parts read : List Part) :
    partsOfJson? room (.array (partsToJson parts)) = some read ↔
      (Json.array (partsToJson parts)).depth ≤ room ∧ AllMeet storable parts ∧
        rereadAll parts = read := by
  match room with
  | 0 => simp [partsOfJson?]
  | room + 1 => simp [partsOfJson?, Json.items?, mapM_partsToJson room parts]

/-- When the trees of parts are read, and as what. -/
theorem mapM_partsToJson (room : Nat) (parts read : List Part) :
    (partsToJson parts).mapM (ofJson? room) = some read ↔
      (∀ json ∈ partsToJson parts, json.depth ≤ room) ∧ AllMeet storable parts ∧
        rereadAll parts = read := by
  match parts with
  | [] => simp [partsToJson, AllMeet, rereadAll]
  | part :: rest =>
    simp [partsToJson, Option.bind_eq_some_iff, ofJson?_toJson room part,
      mapM_partsToJson room rest, AllMeet, rereadAll, and_assoc, and_left_comm]

/-- When the tree of named bodies is read, and as what. -/
theorem bodiesOfJson?_bodiesToJson (room : Nat) (bodies : List (String × List Part))
    (read : Dict (List Part)) :
    bodiesOfJson? room (.object (bodiesToJson bodies)) = some read ↔
      (Json.object (bodiesToJson bodies)).depth ≤ room ∧ BodiesMeet storable bodies ∧
        Dict.ofList (rereadBodies bodies) = read := by
  match room with
  | 0 => simp [bodiesOfJson?]
  | room + 1 =>
    rw [object_bodiesToJson]
    simp only [bodiesOfJson?, Json.entries?_ofFields, List.mapM_map, Function.comp_def,
      Option.bind_eq_bind, Option.bind_some, Option.bind_eq_some_iff,
      mapM_bodies room bodies, Json.depth_ofFields_le, List.forall_mem_map]
    simp [and_assoc]

/-- When the trees of named bodies are read, and as what. -/
theorem mapM_bodies (room : Nat) (bodies read : List (String × List Part)) :
    (bodies.mapM fun entry => (bodyOfJson? room (Body.toJson entry.2)).bind fun body =>
        some (entry.1, body)) = some read ↔
      (∀ entry ∈ bodies, (Body.toJson entry.2).depth ≤ room) ∧ BodiesMeet storable bodies ∧
        rereadBodies bodies = read := by
  match bodies with
  | [] => simp [BodiesMeet, rereadBodies]
  | (name, body) :: rest =>
    have first (read : Body) : bodyOfJson? room (Body.toJson body) = some read ↔
        (Body.toJson body).depth ≤ room ∧ AllMeet storable body ∧ rereadAll body = read :=
      bodyOfJson?_toJson room body read
    simp [Option.bind_eq_some_iff, first, mapM_bodies room rest, BodiesMeet, rereadBodies,
      and_assoc, and_left_comm]

end

end Part

/-- When the tree of a template is read, and as what. -/
theorem Template.ofJson?_toJson {template read : Template} :
    Template.ofJson? room template.toJson = some read ↔
      template.toJson.depth ≤ room ∧ template.Meets storable ∧ template.reread = read := by
  cases room with
  | zero => simp [Template.ofJson?, Template.toJson]
  | succ room =>
    obtain ⟨source, body, blocks, path⟩ := template
    have path_read : Json.optional? Json.text? (some (Json.ofOption Json.ofString path)) =
        some path := by
      cases path with
      | none => rfl
      | some path =>
        show (Json.text? (Json.ofString path)).map some = _
        simp
    have path_depth : (Json.ofOption Json.ofString path).depth ≤ room := by
      cases path <;> simp [Json.ofOption, Json.depth]
    have keys : storable.keys (blocks.map Prod.fst) := trivial
    simp [Template.ofJson?, Template.toJson, Option.bind_eq_some_iff, path_read, path_depth,
      Body.toJson, Part.bodiesOfJson?_bodiesToJson room blocks,
      Part.bodyOfJson?_toJson room body, Template.meets_iff, keys, Template.reread, and_assoc,
      and_left_comm]

end Dust
