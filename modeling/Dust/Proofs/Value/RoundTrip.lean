import Dust.Proofs.Filter.Reading
import Dust.Proofs.Value.Inside

/-!
# Values read back from JSON

The JSON tree of a value is read as the value, if there is room for its lists and maps and there are
no doubles in it. A map is a dictionary: its keys are in order, so that reading its fields one after
the other gives them back as they stand.
-/

namespace Dust.Value

/-- An integer is read as it is written. -/
theorem ofJson?_ofInt (room : Nat) (n : Int64) :
    ofJson? room (Json.ofInt n.toInt) = some (integer n) := by
  have least : Number.leastInteger ≤ n.toInt := n.le_toInt
  have bounded : n.toInt < Json.unsignedBound := by
    have below := n.toInt_lt
    simp only [Json.unsignedBound]
    omega
  simp only [Json.ofInt, ofJson?, Json.numeral?_intText least bounded, Option.map_some, ofNumeral,
    Number.int64?_toInt]

/-- A text is read as it is written. -/
theorem ofJson?_ofString (room : Nat) (text : String) :
    ofJson? room (Json.ofString text) = some (string text) := by
  simp only [Json.ofString, ofJson?, Json.unquote?_quote, Option.map_some, String.ofList_toList]

mutual

/-- The tree of a value without doubles is read as the value if there is room for it. -/
theorem ofJson?_toJson (value : Value) {room : Nat} (ordered : value.IsOrdered)
    (floatless : value.IsFloatless) (fits : value.depth ≤ room) :
    ofJson? room value.toJson = some value := by
  match value with
  | null | bool b => rw [toJson, ofJson?]
  | integer n => exact ofJson?_ofInt room n
  | string text => exact ofJson?_ofString room text
  | float x => exact False.elim floatless
  | list items =>
    match room with
    | 0 => exact absurd fits (by simp [depth])
    | room + 1 =>
      have read := ofJsonItems?_toJsonItems items ordered.2 floatless.2 (Nat.le_of_succ_le_succ fits)
      rw [toJson, ofJson?, read, Option.map_some]
  | map entries =>
    match room with
    | 0 => exact absurd fits (by simp [depth])
    | room + 1 =>
      have read :=
        ofJsonFields?_toJsonFields entries ordered.2 floatless.2 (Nat.le_of_succ_le_succ fits)
      have sorted : Dict.Sorted entries := ordered.1
      rw [toJson, ofJson?, read, Option.map_some, Dict.ofList_of_sorted sorted]

/-- The trees of values without doubles are read as the values if there is room for them. -/
theorem ofJsonItems?_toJsonItems (items : List Value) {room : Nat}
    (ordered : ThroughoutItems HasOrder items) (floatless : ThroughoutItems IsNoFloat items)
    (fits : depthOfItems items ≤ room) :
    ofJsonItems? room (toJsonItems items) = some items := by
  match items with
  | [] => rw [toJsonItems, ofJsonItems?]
  | item :: rest =>
    have first := ofJson?_toJson item ordered.1 floatless.1 (Nat.le_trans (Nat.le_max_left ..) fits)
    have others :=
      ofJsonItems?_toJsonItems rest ordered.2 floatless.2 (Nat.le_trans (Nat.le_max_right ..) fits)
    simp only [toJsonItems, ofJsonItems?, first, others, Option.bind_eq_bind, Option.bind_some]

/-- The fields of entries without doubles are read as the entries if there is room for them. -/
theorem ofJsonFields?_toJsonFields (entries : List (String × Value)) {room : Nat}
    (ordered : ThroughoutEntries HasOrder entries)
    (floatless : ThroughoutEntries IsNoFloat entries) (fits : depthOfEntries entries ≤ room) :
    ofJsonFields? room (toJsonFields entries) = some entries := by
  match entries with
  | [] => rw [toJsonFields, ofJsonFields?]
  | (key, value) :: rest =>
    have first := ofJson?_toJson value ordered.1 floatless.1 (Nat.le_trans (Nat.le_max_left ..) fits)
    have others :=
      ofJsonFields?_toJsonFields rest ordered.2 floatless.2
        (Nat.le_trans (Nat.le_max_right ..) fits)
    simp only [toJsonFields, ofJsonFields?, Json.unquote?_quote, first, others, Option.bind_eq_bind,
      Option.bind_some, String.ofList_toList]

end

/-- The text of a value over several lines is read as its tree. -/
theorem ofJsonText?_indentedJsonText (value : Value) :
    ofJsonText? value.indentedJsonText = ofJson? Json.maxDepth value.toJson := by
  unfold ofJsonText? indentedJsonText
  rw [String.toList_ofList, Json.parse?_indented value.toJson_isWritten]
  rfl

end Dust.Value
