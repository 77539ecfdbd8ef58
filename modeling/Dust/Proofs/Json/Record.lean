import Dust.Proofs.Json.Double
import Dust.Syntax.Archive

/-!
# Records in JSON

What the readers of records, alternatives and dictionaries make of a tree that a writer of this
library has made, and how deep such a tree is nested. Every reader may open as many arrays and
objects as it has room for; the tree of a record has a depth that tells how much room it takes.
-/

namespace Dust.Json

/-! ### Depth -/

mutual

/-- How deep arrays and objects are nested in a tree. -/
def depth : Json → Nat
  | .array items => depthOfItems items + 1
  | .object fields => depthOfFields fields + 1
  | _ => 0

/-- How deep arrays and objects are nested in some trees. -/
def depthOfItems : List Json → Nat
  | [] => 0
  | item :: rest => max (depth item) (depthOfItems rest)

/-- How deep arrays and objects are nested in some fields. -/
def depthOfFields : List (List Char × Json) → Nat
  | [] => 0
  | (_, value) :: rest => max (depth value) (depthOfFields rest)

end

theorem depthOfItems_le {items : List Json} {room : Nat} :
    depthOfItems items ≤ room ↔ ∀ item ∈ items, item.depth ≤ room := by
  induction items with
  | nil => simp [depthOfItems]
  | cons item rest induction => simp [depthOfItems, induction]

theorem depthOfFields_le {fields : List (List Char × Json)} {room : Nat} :
    depthOfFields fields ≤ room ↔ ∀ field ∈ fields, field.2.depth ≤ room := by
  induction fields with
  | nil => simp [depthOfFields]
  | cons field rest induction => simp [depthOfFields, induction]

/-- An array fits if there is room for it and its items fit into the room that is left. -/
@[simp]
theorem depth_array_le {items : List Json} {room : Nat} :
    (array items).depth ≤ room + 1 ↔ ∀ item ∈ items, item.depth ≤ room := by
  simp [depth, depthOfItems_le]

/-- An object fits if there is room for it and its fields fit into the room that is left. -/
@[simp]
theorem depth_object_le {fields : List (List Char × Json)} {room : Nat} :
    (object fields).depth ≤ room + 1 ↔ ∀ field ∈ fields, field.2.depth ≤ room := by
  simp [depth, depthOfFields_le]

/-- An array takes room. -/
@[simp]
theorem depth_array_ne_zero {items : List Json} : (array items).depth ≠ 0 := by
  simp [depth]

/-- An object takes room. -/
@[simp]
theorem depth_object_ne_zero {fields : List (List Char × Json)} : (object fields).depth ≠ 0 := by
  simp [depth]

/-- A record fits if there is room for it and its fields fit into the room that is left. -/
@[simp]
theorem depth_ofFields_le {fields : List (String × Json)} {room : Nat} :
    (ofFields fields).depth ≤ room + 1 ↔ ∀ field ∈ fields, field.2.depth ≤ room := by
  simp only [ofFields, depth_object_le, List.forall_mem_map]

/-- A record takes room. -/
@[simp]
theorem depth_ofFields_ne_zero {fields : List (String × Json)} : (ofFields fields).depth ≠ 0 :=
  depth_object_ne_zero

/-- An alternative fits if there is room for it and its content fits into the room that is left. -/
@[simp]
theorem depth_ofVariant_le {name : String} {content : Json} {room : Nat} :
    (ofVariant name content).depth ≤ room + 1 ↔ content.depth ≤ room := by
  simp [ofVariant]

/-- An alternative takes room. -/
@[simp]
theorem depth_ofVariant_ne_zero {name : String} {content : Json} :
    (ofVariant name content).depth ≠ 0 :=
  depth_object_ne_zero

/-- An alternative is written as its content is. -/
@[simp]
theorem ofVariant_isWritten {name : String} {content : Json} :
    (ofVariant name content).IsWritten ↔ content.IsWritten := by
  simp [ofVariant]

/-- A count is written as numbers are. -/
@[simp]
theorem ofCount_isWritten (n : Nat) : (ofCount n).IsWritten :=
  ofInt_isWritten n

/-- A string takes no room. -/
@[simp]
theorem depth_ofString (text : String) : (ofString text).depth = 0 := rfl

/-- An integer takes no room. -/
@[simp]
theorem depth_ofInt (n : Int) : (ofInt n).depth = 0 := rfl

/-- A count takes no room. -/
@[simp]
theorem depth_ofCount (n : Nat) : (ofCount n).depth = 0 := rfl

/-- A double takes no room. -/
@[simp]
theorem depth_ofFloat (x : Float) : (ofFloat x).depth = 0 := by
  unfold ofFloat
  split <;> rfl

/-- What is missing takes no room. -/
@[simp]
theorem depth_ofOption_none {α : Type} (write : α → Json) : (ofOption write none).depth = 0 := rfl

/-! ### Names -/

/-- The names of a record are read as they are written. -/
theorem mapM_names (fields : List (String × Json)) :
    (fields.map fun field => (quote field.1.toList, field.2)).mapM
        (fun (written, content) => do some (String.ofList (← unquote? written), content)) =
      some fields := by
  induction fields with
  | nil => rfl
  | cons field rest induction =>
    rw [List.map_cons, List.mapM_cons, induction]
    simp [unquote?_quote]

/-- The entries of a dictionary are read as they are written. -/
theorem entries?_ofFields (fields : List (String × Json)) :
    entries? (ofFields fields) = some fields :=
  mapM_names fields

/-- A name that occurs once picks its field. -/
theorem filter_name {name : String} {content : Json} {fields : List (String × Json)}
    (distinct : (fields.map Prod.fst).Nodup) (mem : (name, content) ∈ fields) :
    fields.filter (·.1 = name) = [(name, content)] := by
  induction fields with
  | nil => cases mem
  | cons field rest induction =>
    simp only [List.map_cons, List.nodup_cons, List.mem_map, not_exists, not_and] at distinct
    rcases List.mem_cons.mp mem with rfl | mem
    · have others : rest.filter (·.1 = name) = [] := by
        simpa [List.filter_eq_nil_iff] using fun _ _ => distinct.1 _
      simp [others]
    · have differ : field.1 ≠ name := fun same => distinct.1 _ mem same.symm
      simp [differ, induction distinct.2 mem]

/-- If every name picks its own field, the names pick all fields. -/
theorem mapM_pick {pick : String → Option (Option Json)} {fields : List (String × Json)}
    (picks : ∀ field ∈ fields, pick field.1 = some (some field.2)) :
    (fields.map Prod.fst).mapM pick = some (fields.map fun field => some field.2) := by
  induction fields with
  | nil => rfl
  | cons field rest induction =>
    obtain ⟨first, others⟩ := List.forall_mem_cons.mp picks
    simp [first, induction others]

/-- The fields of a record whose names differ are read as they are written. -/
@[simp]
theorem fields?_ofFields {names : List String} {fields : List (String × Json)}
    (named : names = fields.map Prod.fst) (distinct : names.Nodup) :
    fields? names (ofFields fields) = some (fields.map fun field => some field.2) := by
  subst named
  have written := mapM_names fields
  simp only [fields?, ofFields]
  rw [written]
  exact mapM_pick fun _ mem => by simp only [filter_name distinct mem]

/-- An alternative is read as it is written. -/
@[simp]
theorem variant?_ofVariant (name : String) (content : Json) :
    variant? (ofVariant name content) = some (name, some content) := by
  simp [ofVariant, ofFields, variant?, unquote?_quote]

/-- An alternative without content is read as it is written. -/
@[simp]
theorem unit?_ofString (name : String) : unit? (ofString name) = some name := by
  simp [unit?, variant?, ofString, unquote?_quote]

/-! ### Contents -/

/-- A text is read as it is written. -/
@[simp]
theorem text?_ofString (text : String) : text? (ofString text) = some text := by
  simp [text?, ofString, unquote?_quote]

/-- A count is read as it is written if it fits. -/
@[simp]
theorem count?_ofCount {n m : Nat} :
    count? (ofCount n) = some m ↔ n < unsignedBound ∧ n = m := by
  by_cases bounded : n < unsignedBound
  · have least : Number.leastInteger ≤ (n : Int) := by simp only [Number.leastInteger]; omega
    have read := numeral?_intText least (by omega)
    simp [count?, ofCount, ofInt, read, bounded]
  · have read := numeral?_intText_large (Nat.not_lt.mp bounded)
    simp only [count?, ofCount, ofInt, bounded, false_and, iff_false]
    cases found : numeral? (Number.intText n) with
    | none => simp
    | some numeral =>
      cases numeral with
      | integer m => exact absurd found (read m)
      | float x => simp

/-- An integer is read as it is written. -/
@[simp]
theorem int64?_ofInt (n : Int64) : int64? (ofInt n.toInt) = some n := by
  have less := n.toInt_lt
  have read := numeral?_intText (n := n.toInt) n.le_toInt (by simp only [unsignedBound]; omega)
  simp only [int64?, ofInt, read, Number.int64?_toInt]

/-- The text of a double is read as one exactly if the double is finite. -/
theorem double?_ofFloat_isSome (x : Float) : (double? (ofFloat x)).isSome = x.isFinite := by
  unfold ofFloat
  cases finite : x.isFinite with
  | false => rfl
  | true =>
    obtain ⟨parts, proper, same, value⟩ := exists_written finite
    rw [if_pos rfl, ← same]
    obtain ⟨magnitude, found⟩ := Option.isSome_iff_exists.mp value
    simp only [double?, numeral?, Written.ofText_text proper, found]
    cases parts.integer? <;> rfl

end Dust.Json
