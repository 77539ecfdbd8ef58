import Dust.Proofs.Filter.Inert

/-!
# Entities

What is escaped for HTML is read back by going through it once and putting its character in place of
every entity. Escaping writes an ampersand at the beginning of an entity only, also where the text
has an ampersand itself. So a text that looks as if it were escaped already is told from the text
that it would be read as.
-/

namespace Dust.Filter

/-- The entities, each with the character that it stands for. -/
def entities : List (List Char × Char) :=
  [("&amp;".toList, '&'), ("&lt;".toList, '<'), ("&gt;".toList, '>'), ("&quot;".toList, '"'),
    ("&#39;".toList, '\'')]

/-- An entity has an ampersand in front and nowhere else. -/
theorem eq_cons_of_mem_entities {entity : List Char} {c : Char} (mem : (entity, c) ∈ entities) :
    ∃ name, entity = '&' :: name ∧ '&' ∉ name := by
  simp only [entities, List.mem_cons, Prod.mk.injEq, List.not_mem_nil, or_false] at mem
  rcases mem with ⟨rfl, -⟩ | ⟨rfl, -⟩ | ⟨rfl, -⟩ | ⟨rfl, -⟩ | ⟨rfl, -⟩ <;>
    exact ⟨_, rfl, by decide⟩

/-! ### Reading entities -/

/-- Reads the entity that a text begins with: its character, and what stands behind it. -/
def readEntity? (text : List Char) : Option (Char × List Char) :=
  (entities.find? fun entity => entity.1.isPrefixOf text).map fun entity =>
    (entity.2, text.drop entity.1.length)

/-- The entity that a text begins with is read. -/
theorem readEntity?_append {entity : List Char} {c : Char} (mem : (entity, c) ∈ entities)
    (behind : List Char) : readEntity? (entity ++ behind) = some (c, behind) := by
  simp only [entities, List.mem_cons, Prod.mk.injEq, List.not_mem_nil, or_false] at mem
  rcases mem with ⟨rfl, rfl⟩ | ⟨rfl, rfl⟩ | ⟨rfl, rfl⟩ | ⟨rfl, rfl⟩ | ⟨rfl, rfl⟩ <;> rfl

/-- No entity is read where there is no ampersand. -/
theorem readEntity?_eq_none {c : Char} (other : c ≠ '&') (rest : List Char) :
    readEntity? (c :: rest) = none := by
  refine Option.map_eq_none_iff.mpr (List.find?_eq_none.mpr fun ⟨entity, decoded⟩ mem => ?_)
  obtain ⟨name, rfl, -⟩ := eq_cons_of_mem_entities mem
  simp [List.isPrefixOf, other.symm]

/-- What stands behind an entity is shorter. -/
theorem length_lt_of_readEntity? {text behind : List Char} {c : Char}
    (reads : readEntity? text = some (c, behind)) : behind.length < text.length := by
  obtain ⟨⟨entity, decoded⟩, found, same⟩ := Option.map_eq_some_iff.mp reads
  obtain ⟨name, rfl, -⟩ := eq_cons_of_mem_entities (List.mem_of_find?_eq_some found)
  have begins := List.find?_some found
  have fits := (List.isPrefixOf_iff_prefix.mp begins).length_le
  cases same
  rw [List.length_cons] at fits
  rw [List.length_drop, List.length_cons]
  omega

/-- A text with a character in place of every entity, from left to right. -/
def decodeEntities (text : List Char) : List Char :=
  match text with
  | [] => []
  | c :: rest =>
    match reads : readEntity? (c :: rest) with
    | some (decoded, behind) =>
      have : behind.length ≤ rest.length := Nat.le_of_lt_succ (length_lt_of_readEntity? reads)
      decoded :: decodeEntities behind
    | none => c :: decodeEntities rest
termination_by text.length

/-- What is read at the beginning of a text decides how the text is decoded. -/
theorem decodeEntities_eq (c : Char) (rest : List Char) :
    decodeEntities (c :: rest) =
      match readEntity? (c :: rest) with
      | some (decoded, behind) => decoded :: decodeEntities behind
      | none => c :: decodeEntities rest := by
  rw [decodeEntities]
  split <;> rename_i reads <;> simp only [reads]

/-- An entity is decoded to its character. -/
theorem decodeEntities_append {entity : List Char} {c : Char} (mem : (entity, c) ∈ entities)
    (behind : List Char) : decodeEntities (entity ++ behind) = c :: decodeEntities behind := by
  have reads := readEntity?_append mem behind
  obtain ⟨name, rfl, -⟩ := eq_cons_of_mem_entities mem
  rw [List.cons_append] at reads ⊢
  rw [decodeEntities_eq, reads]

/-- A character that is no ampersand stays when entities are decoded. -/
theorem decodeEntities_cons {c : Char} (other : c ≠ '&') (rest : List Char) :
    decodeEntities (c :: rest) = c :: decodeEntities rest := by
  rw [decodeEntities_eq, readEntity?_eq_none other]

/-! ### Writing entities -/

/-- Every ampersand of a text begins an entity. -/
def BeginsEntities (text : List Char) : Prop :=
  ∀ n, text[n]? = some '&' → ∃ entity ∈ entities, entity.1 <+: text.drop n

namespace BeginsEntities

/-- There is no ampersand in an empty text. -/
theorem nil : BeginsEntities [] := nofun

/-- A character that is no ampersand can stand in front. -/
theorem cons {c : Char} {text : List Char} (other : c ≠ '&') (rest : BeginsEntities text) :
    BeginsEntities (c :: text) := by
  intro n ampersand
  cases n with
  | zero => exact absurd (Option.some.inj ampersand) other
  | succ n => exact rest n ampersand

/-- Characters that are no ampersands can stand in front. -/
theorem append {front text : List Char} (others : '&' ∉ front) (rest : BeginsEntities text) :
    BeginsEntities (front ++ text) := by
  induction front with
  | nil => exact rest
  | cons c front induction =>
    rw [List.mem_cons, not_or] at others
    exact cons (Ne.symm others.1) (induction others.2)

/-- An entity can stand in front. -/
theorem entity {entity text : List Char} {c : Char} (mem : (entity, c) ∈ entities)
    (rest : BeginsEntities text) : BeginsEntities (entity ++ text) := by
  obtain ⟨name, rfl, others⟩ := eq_cons_of_mem_entities mem
  intro n ampersand
  cases n with
  | zero => exact ⟨_, mem, List.prefix_append _ text⟩
  | succ n => exact append others rest n ampersand

end BeginsEntities

/-- A character is written as its entity, or as it is if it has none. Ampersands have one. -/
theorem htmlCharacter_cases (c : Char) :
    (htmlCharacter c, c) ∈ entities ∨ htmlCharacter c = [c] ∧ c ≠ '&' := by
  unfold htmlCharacter
  split
  case h_6 other _ _ _ _ => exact .inr ⟨rfl, other⟩
  all_goals exact .inl (by decide)

/-- What is escaped for HTML has ampersands only where an entity begins. -/
theorem escapeHtml_beginsEntities (text : List Char) : BeginsEntities (escapeHtml text) := by
  induction text with
  | nil => exact .nil
  | cons c rest induction =>
    rw [escapeHtml, List.flatMap_cons]
    rcases htmlCharacter_cases c with mem | ⟨same, other⟩
    · exact .entity mem induction
    · rw [same]
      exact .cons other induction

/-- What is escaped for HTML is decoded to what it was. -/
theorem decodeEntities_escapeHtml (text : List Char) :
    decodeEntities (escapeHtml text) = text := by
  induction text with
  | nil => rw [escapeHtml, List.flatMap_nil, decodeEntities]
  | cons c rest induction =>
    rw [escapeHtml, List.flatMap_cons]
    rcases htmlCharacter_cases c with mem | ⟨same, other⟩
    · rw [decodeEntities_append mem, ← escapeHtml, induction]
    · rw [same, List.singleton_append, decodeEntities_cons other, ← escapeHtml, induction]

example : escapeHtml "&lt;".toList = "&amp;lt;".toList := by decide

/-- The filter `h` makes of a text one without characters that end a text or an attribute, in which
every ampersand begins an entity, and which is decoded to the text that it was. So different texts
are never made the same, also if they hold entities already. -/
theorem escapeHtml_lossless :
    (∀ text : List Char, IsInert (escapeHtml text) ∧ BeginsEntities (escapeHtml text) ∧
      decodeEntities (escapeHtml text) = text) ∧
    Function.Injective escapeHtml ∧
    ∃ escape, builtins.get? "h" = some escape ∧
      (∀ text : String, escape (.string text) = .string (String.ofList (escapeHtml text.toList))) ∧
      Function.Injective fun text : String => escape (.string text) := by
  have injective : Function.Injective escapeHtml :=
    Function.LeftInverse.injective decodeEntities_escapeHtml
  refine ⟨fun text => ⟨escapeHtml_isInert text, escapeHtml_beginsEntities text,
    decodeEntities_escapeHtml text⟩, injective, onText escapeHtml, rfl, fun _ => rfl, ?_⟩
  intro text other same
  have escaped : String.ofList (escapeHtml text.toList) = String.ofList (escapeHtml other.toList) :=
    Value.string.inj same
  exact String.toList_inj.mp (injective (String.ofList_injective escaped))

end Dust.Filter
