import Dust.Proofs.Syntax.Stored

/-!
# Archives read back

The text of an archive is the tree of its templates written out, so it is parsed as that tree. It is
read exactly if every template in it is, and what is read are the templates as they are read one by
one. Templates without doubles and with their named bodies in order come back as they are.
-/

namespace Dust

/-! ### What is written -/

/-- A span is written. -/
@[simp]
theorem Span.toJson_isWritten (span : Span) : span.toJson.IsWritten := by
  simp [Span.toJson]

/-- An identifier is written. -/
@[simp]
theorem Identifier.toJson_isWritten (identifier : Identifier) : identifier.toJson.IsWritten := by
  simp [Identifier.toJson]

/-- An anchor is written. -/
@[simp]
theorem Anchor.toJson_isWritten (anchor : Anchor) : anchor.toJson.IsWritten := by
  cases anchor <;> exact Json.ofString_isWritten _

/-- A kind of section is written. -/
@[simp]
theorem SectionKind.toJson_isWritten (kind : SectionKind) : kind.toJson.IsWritten := by
  cases kind <;> exact Json.ofString_isWritten _

/-- A literal is written. -/
@[simp]
theorem Literal.toJson_isWritten (literal : Literal) : literal.toJson.IsWritten := by
  cases literal <;> simp [Literal.toJson]

/-- A value that may be missing is written if all values are. -/
@[simp]
theorem Json.ofOption_isWritten {α : Type} {write : α → Json} {value : Option α}
    (written : ∀ value, (write value).IsWritten) : (Json.ofOption write value).IsWritten := by
  cases value with
  | none => exact Json.null_isWritten
  | some value => exact written value

namespace Path

mutual

/-- A path is written. -/
theorem toJson_isWritten (path : Path) : path.toJson.IsWritten := by
  match path with
  | ⟨anchor, keys, span⟩ =>
    simp only [toJson, Json.ofFields_isWritten, List.forall_mem_cons, Json.array_isWritten]
    exact ⟨anchor.toJson_isWritten, keysToJson_isWritten keys, span.toJson_isWritten, by simp⟩

/-- A key is written. -/
theorem keyToJson_isWritten (key : Key) : (keyToJson key).IsWritten := by
  match key with
  | .name name => simp [keyToJson]
  | .index index => simp [keyToJson]
  | .path path => simpa [keyToJson] using toJson_isWritten path

/-- Keys are written. -/
theorem keysToJson_isWritten (keys : List Key) : ∀ json ∈ keysToJson keys, json.IsWritten := by
  match keys with
  | [] => simp [keysToJson]
  | key :: rest =>
    simpa [keysToJson] using ⟨keyToJson_isWritten key, keysToJson_isWritten rest⟩

end

end Path

namespace Part

mutual

/-- A part is written. -/
theorem toJson_isWritten (part : Part) : part.toJson.IsWritten := by
  match part with
  | .text content => simp [toJson]
  | .comment content => simp [toJson]
  | .reference path filters span => simp [toJson, Path.toJson_isWritten]
  | .element (.test kind key) params main bodies span =>
    simp +contextual [toJson, Path.toJson_isWritten, paramsToJson_isWritten params,
      mainToJson_isWritten main, bodiesToJson_isWritten bodies]
  | .element (.helper name) params main bodies span =>
    simp +contextual [toJson, paramsToJson_isWritten params, mainToJson_isWritten main,
      bodiesToJson_isWritten bodies]
  | .block name main => simp [toJson, mainToJson_isWritten main]
  | .inclusion target context params span =>
    simp +contextual [toJson, Path.toJson_isWritten, targetToJson_isWritten target,
      paramsToJson_isWritten params]

/-- A parameter is written. -/
theorem paramToJson_isWritten (param : Param) : (paramToJson param).IsWritten := by
  match param with
  | ⟨name, argument⟩ => simp [paramToJson, argumentToJson_isWritten argument]

/-- The value of a parameter is written. -/
theorem argumentToJson_isWritten (argument : Argument) : (argumentToJson argument).IsWritten := by
  match argument with
  | .path path => simp [argumentToJson, Path.toJson_isWritten]
  | .literal literal => simp [argumentToJson]
  | .interpolated body => simpa [argumentToJson] using partsToJson_isWritten body

/-- The name of an included template is written. -/
theorem targetToJson_isWritten (target : Target) : (targetToJson target).IsWritten := by
  match target with
  | .static name => simp [targetToJson]
  | .dynamic body => simpa [targetToJson] using partsToJson_isWritten body

/-- Parameters are written. -/
theorem paramsToJson_isWritten (params : List Param) :
    ∀ json ∈ paramsToJson params, json.IsWritten := by
  match params with
  | [] => simp [paramsToJson]
  | param :: rest =>
    simpa [paramsToJson] using ⟨paramToJson_isWritten param, paramsToJson_isWritten rest⟩

/-- A main body is written. -/
theorem mainToJson_isWritten (main : Option (List Part)) : (mainToJson main).IsWritten := by
  match main with
  | none => simp [mainToJson]
  | some body => simpa [mainToJson] using partsToJson_isWritten body

/-- Named bodies are written. -/
theorem bodiesToJson_isWritten (bodies : List (String × List Part)) :
    (Json.object (bodiesToJson bodies)).IsWritten := by
  match bodies with
  | [] => simp [object_bodiesToJson]
  | (name, body) :: rest =>
    have others := bodiesToJson_isWritten rest
    rw [object_bodiesToJson, Json.ofFields_isWritten] at others ⊢
    simpa [Body.toJson] using ⟨partsToJson_isWritten body, by simpa [Body.toJson] using others⟩

/-- Parts are written. -/
theorem partsToJson_isWritten (parts : List Part) :
    ∀ json ∈ partsToJson parts, json.IsWritten := by
  match parts with
  | [] => simp [partsToJson]
  | part :: rest =>
    simpa [partsToJson] using ⟨toJson_isWritten part, partsToJson_isWritten rest⟩

end

end Part

/-- A template is written. -/
theorem Template.toJson_isWritten (template : Template) : template.toJson.IsWritten := by
  simp +contextual [Template.toJson, Body.toJson, Part.partsToJson_isWritten template.body,
    Part.bodiesToJson_isWritten]

/-! ### What comes back as it is -/

/-- No doubles, and named bodies in the order of their names. -/
def faithful : Demand where
  float _ := False
  keys names := names.Pairwise (· < ·)

namespace Part

mutual

/-- A part that is faithful comes back as it is. -/
theorem reread_of_faithful (part : Part) (meets : part.Meets faithful) : part.reread = part := by
  match part, meets with
  | .text _, _ => rfl
  | .comment _, _ => rfl
  | .reference .., _ => rfl
  | .element head params main bodies span, ⟨_, _, params_meet, main_meets, keys, bodies_meet, _⟩ =>
    rw [reread, rereadParams_of_faithful params params_meet,
      rereadMain_of_faithful main main_meets, rereadBodies_of_faithful bodies bodies_meet,
      Dict.ofList_of_sorted keys]
  | .block name main, ⟨_, _, main_meets⟩ => rw [reread, rereadMain_of_faithful main main_meets]
  | .inclusion target context params span, ⟨_, target_meets, _, params_meet, _⟩ =>
    rw [reread, rereadTarget_of_faithful target target_meets,
      rereadParams_of_faithful params params_meet]

/-- A parameter that is faithful comes back as it is. -/
theorem rereadParam_of_faithful (param : Param) (meets : param.Meets faithful) :
    rereadParam param = param := by
  match param, meets with
  | ⟨name, argument⟩, ⟨_, argument_meets⟩ =>
    rw [rereadParam, rereadArgument_of_faithful argument argument_meets]

/-- The value of a parameter that is faithful comes back as it is. -/
theorem rereadArgument_of_faithful (argument : Argument) (meets : argument.Meets faithful) :
    rereadArgument argument = argument := by
  match argument, meets with
  | .path _, _ => rfl
  | .literal (.string _), _ => rfl
  | .literal (.integer _), _ => rfl
  | .interpolated body, meets => rw [rereadArgument, rereadAll_of_faithful body meets]

/-- The name of an included template that is faithful comes back as it is. -/
theorem rereadTarget_of_faithful (target : Target) (meets : target.Meets faithful) :
    rereadTarget target = target := by
  match target, meets with
  | .static _, _ => rfl
  | .dynamic body, meets => rw [rereadTarget, rereadAll_of_faithful body meets]

/-- Parameters that are faithful come back as they are. -/
theorem rereadParams_of_faithful (params : List Param) (meets : ParamsMeet faithful params) :
    rereadParams params = params := by
  match params, meets with
  | [], _ => rfl
  | param :: rest, ⟨first, others⟩ =>
    rw [rereadParams, rereadParam_of_faithful param first, rereadParams_of_faithful rest others]

/-- A main body that is faithful comes back as it is. -/
theorem rereadMain_of_faithful (main : Option (List Part)) (meets : MainMeets faithful main) :
    rereadMain main = main := by
  match main, meets with
  | none, _ => rfl
  | some body, meets => rw [rereadMain, rereadAll_of_faithful body meets]

/-- Named bodies that are faithful come back as they are. -/
theorem rereadBodies_of_faithful (bodies : List (String × List Part))
    (meets : BodiesMeet faithful bodies) : rereadBodies bodies = bodies := by
  match bodies, meets with
  | [], _ => rfl
  | (name, body) :: rest, ⟨first, others⟩ =>
    rw [rereadBodies, rereadAll_of_faithful body first, rereadBodies_of_faithful rest others]

/-- Parts that are faithful come back as they are. -/
theorem rereadAll_of_faithful (parts : List Part) (meets : AllMeet faithful parts) :
    rereadAll parts = parts := by
  match parts, meets with
  | [], _ => rfl
  | part :: rest, ⟨first, others⟩ =>
    rw [rereadAll, reread_of_faithful part first, rereadAll_of_faithful rest others]

end

end Part

namespace Template

/-- A template that is faithful comes back as it is. -/
theorem reread_of_faithful {template : Template} (meets : template.Meets faithful) :
    template.reread = template := by
  simp only [reread, Part.rereadAll_of_faithful _ meets.body,
    Part.rereadBodies_of_faithful _ meets.blocks, Dict.ofList_of_sorted meets.keys]

/-! ### Archives -/

/-- What a template needs to be read back. -/
def IsStorable (template : Template) : Prop :=
  template.toJson.depth ≤ Json.maxDepth - 1 ∧ template.Meets storable

/-- Templates are read from their trees exactly if each of them is. -/
theorem mapM_toJson {entries read : List (String × Template)} :
    (entries.mapM fun entry => (ofJson? (Json.maxDepth - 1) entry.2.toJson).bind fun template =>
        some (entry.1, template)) = some read ↔
      (∀ entry ∈ entries, entry.2.IsStorable) ∧
        entries.map (fun entry => (entry.1, entry.2.reread)) = read := by
  induction entries generalizing read with
  | nil => simp
  | cons entry rest induction =>
    simp [Option.bind_eq_some_iff, ofJson?_toJson, induction, IsStorable, and_assoc, and_left_comm]

/-- The templates of an archive are read back exactly if all of them are. -/
theorem ofArchive?_archive {templates read : Dict Template} :
    ofArchive? (archive templates) = some read ↔
      (∀ entry ∈ templates, entry.2.IsStorable) ∧
        Dict.ofList (templates.map fun entry => (entry.1, entry.2.reread)) = read := by
  have written : (Json.ofFields (templates.map fun entry =>
      (entry.1, entry.2.toJson))).IsWritten := by
    rw [Json.ofFields_isWritten, List.forall_mem_map]
    exact fun entry _ => entry.2.toJson_isWritten
  simp only [ofArchive?, archive, String.toList_ofList, Json.parse?_compact written,
    Json.entries?_ofFields, List.mapM_map, Function.comp_def, Option.bind_eq_bind,
    Option.bind_some, Option.bind_eq_some_iff, mapM_toJson, Option.some.injEq]
  simp

end Template

end Dust
