import Dust.Proofs.Render.Scoping
import Dust.Proofs.Syntax.DottedPaths

/-!
# Positions behind paths

A position behind a path is spelled in brackets or behind a dot, or it is computed: the brackets
hold a path that leads to the integer or to its digits as a text. All of these lead to the same
item, or to the same entry of a map, and if one of them leads nowhere then so do the others. An
integer below zero is the position of nothing.
-/

namespace Dust

/-! ## Positions in values -/

/-- A value stands for a position: it is the integer, or the text of its digits. -/
inductive Value.IsPosition (index : Nat) : Value → Prop where
  /-- The integer. -/
  | integer {n : Int64} (same : n.toInt = index) : IsPosition index (.integer n)
  /-- The text of its digits. -/
  | digits : IsPosition index (.string (String.ofList (Number.natText index)))

/-- The digits of a position find what the position finds. -/
theorem Value.get?_natText (value : Value) {index : Nat} (bounded : index < Number.indexBound) :
    value.get? (String.ofList (Number.natText index)) = value.item? index := by
  cases value with
  | list items => simp [get?, item?, Number.readIndex?_natText bounded]
  | null | bool | integer | float | string | map => rfl

/-- A value that stands for a position is a step to what is at the position. -/
theorem Value.IsPosition.follow? {index : Nat} {key : Value} (position : key.IsPosition index)
    (bounded : index < Number.indexBound) (value : Value) :
    key.toStep?.bind value.follow? = value.item? index := by
  cases position with
  | integer same => simp [toStep?, same, Value.follow?]
  | digits => exact value.get?_natText bounded

/-- An integer below zero is no step. -/
theorem Value.toStep?_of_neg {n : Int64} (negative : n.toInt < 0) :
    (Value.integer n).toStep? = none :=
  if_neg (Int.not_le.mpr negative)

namespace Context

variable (context : Context) (scope : Scope)

/-! ## Paths that go on -/

mutual

/-- A path leads to the same value wherever it stands. -/
theorem get?_move (bytes : Nat) : ∀ path : Path,
    context.get? scope (path.move bytes) = context.get? scope path
  | ⟨_, [], _⟩ => rfl
  | ⟨_, first :: rest, _⟩ => by
    rw [Path.move, Path.moveKeys]
    simp only [get?, toStep?_move bytes first, followKeys?_move bytes rest]

/-- A key is the same step wherever it stands. -/
theorem toStep?_move (bytes : Nat) : ∀ key : Key,
    context.toStep? scope (key.move bytes) = context.toStep? scope key
  | .name _ | .index _ => rfl
  | .path path => by rw [Key.move, toStep?, toStep?, get?_move bytes path]

/-- Keys lead to the same value wherever they stand. -/
theorem followKeys?_move (bytes : Nat) : ∀ (keys : List Key) (value : Value),
    context.followKeys? scope value (Path.moveKeys bytes keys) =
      context.followKeys? scope value keys
  | [], _ => rfl
  | key :: rest, value => by
    rw [Path.moveKeys]
    simp only [followKeys?, toStep?_move bytes key, followKeys?_move bytes rest]

end

/-- Keys lead where the last one of them leads from where the others lead. -/
theorem followKeys?_concat (value : Value) (keys : List Key) (key : Key) :
    context.followKeys? scope value (keys ++ [key]) =
      (context.followKeys? scope value keys).bind fun inner =>
        (context.toStep? scope key).bind inner.follow? := by
  induction keys generalizing value with
  | nil => simp [followKeys?]
  | cons first rest induction =>
    simp only [List.cons_append, followKeys?, induction, Option.bind_eq_bind, Option.bind_assoc]

/-- A path that begins as paths do leads, with one more key, where the key leads from where the path
leads. -/
theorem get?_concat {path : Path} (anchored : path.IsAnchored) (key : Key) (span : Span) :
    context.get? scope ⟨path.anchor, path.keys ++ [key], span⟩ =
      (context.get? scope path).bind fun value =>
        (context.toStep? scope key).bind value.follow? := by
  obtain ⟨anchor, keys, _⟩ := path
  cases keys with
  | nil =>
    cases anchor with
    | relative =>
      obtain ⟨_, first⟩ := anchored rfl
      cases first
    | current => simp [get?, followKeys?]
  | cons first rest =>
    cases anchor <;>
      simp only [List.cons_append, get?, followKeys?_concat, Option.bind_eq_bind, Option.bind_assoc]

end Context

/-- A path that a text spells begins with a name or at the current value. -/
theorem Path.isAnchored_of_ofText? {text : List Char} {path : Path}
    (spelled : Path.ofText? text = some path) : path.IsAnchored := by
  have anchored : path.Throughout IsAnchored := by
    unfold ofText? at spelled
    split at spelled
    · rename_i read
      split at spelled
      · cases spelled
        exact IsRead.anchored ⟨_, _, _, read⟩
      · cases spelled
    · cases spelled
  cases path
  exact anchored.1

/-! ## Spelled positions -/

section Spelled

variable {text : List Char} {path : Path} {index : Nat}

/-- A spelled path goes on with a position in brackets. -/
theorem Path.ofText?_index (spelled : Path.ofText? text = some path)
    (ends : TokenKind.lastInTag? text ≠ some .number) (bounded : index < Number.indexBound) :
    ∃ span, Path.ofText? (text ++ '[' :: (Number.natText index ++ [']'])) =
      some ⟨path.anchor, path.keys ++ [.index index], span⟩ := by
  exact ⟨_, Path.ofText?_keys spelled (fun number => absurd number ends) (.cons (by decide))
    (.cons (by decide)) (KeyTokens.index bounded)⟩

/-- A spelled path goes on with a position behind a dot. -/
theorem Path.ofText?_dot (spelled : Path.ofText? text = some path)
    (ends : TokenKind.lastInTag? text ≠ some .number) (bounded : index < Number.indexBound) :
    ∃ span, Path.ofText? (text ++ '.' :: Number.natText index) =
      some ⟨path.anchor, path.keys ++ [.index index], span⟩ := by
  obtain ⟨first, rest, written, -⟩ := Number.natText_eq_cons index
  have numeral : (Number.natText index).all Char.isDigit = true :=
    List.all_eq_true.mpr fun _ mem => Number.isDigit_of_mem_natText mem
  have value := Number.ofDigits_natText index
  let key : DottedKey := .number (Number.natText index) (by simp [written]) numeral
    (by rwa [value])
  have endsKey : key.EndsBefore ['}'] := .of_stops (.cons (by decide)) (.cons (by decide))
  have isIndex : key.key = .index index := congrArg Key.index value
  have grown := Path.ofText?_keys spelled (fun number => absurd number ends)
    (.cons (by decide)) (.cons (by decide)) (DottedKey.keyTokens endsKey)
  rw [isIndex] at grown
  exact ⟨_, grown⟩

end Spelled

namespace Context

/-- A text spells a path, and the path leads to a value or nowhere. -/
def Resolves (context : Context) (scope : Scope) (text : List Char) (result : Option Value) :
    Prop :=
  ∃ path, Path.ofText? text = some path ∧ context.get? scope path = result

/-- However a position behind a path is spelled, it leads to what is at the position in the value
that the path leads to, and an integer below zero leads nowhere. The path must not end with a number
that a dot and a position would go on with. -/
theorem resolves_position {context : Context} {scope : Scope} {text : List Char}
    {found : Option Value} (resolves : context.Resolves scope text found)
    (ends : TokenKind.lastInTag? text ≠ some .number) :
    (∀ index < Number.indexBound,
      context.Resolves scope (text ++ '[' :: (Number.natText index ++ [']']))
        (found.bind (·.item? index)) ∧
      context.Resolves scope (text ++ '.' :: Number.natText index)
        (found.bind (·.item? index)) ∧
      ∀ keyText key, context.Resolves scope keyText (some key) → key.IsPosition index →
        context.Resolves scope (text ++ '[' :: (keyText ++ [']'])) (found.bind (·.item? index))) ∧
    ∀ keyText (n : Int64), context.Resolves scope keyText (some (.integer n)) → n.toInt < 0 →
      context.Resolves scope (text ++ '[' :: (keyText ++ [']'])) none := by
  obtain ⟨path, spelled, rfl⟩ := resolves
  have goesOn := context.get?_concat scope (Path.isAnchored_of_ofText? spelled)
  have computed : ∀ keyText key, context.Resolves scope keyText (some key) →
      context.Resolves scope (text ++ '[' :: (keyText ++ [']']))
        ((context.get? scope path).bind fun value => key.toStep?.bind value.follow?) := by
    rintro keyText key ⟨keyPath, isKey, leads⟩
    refine ⟨_, Path.ofText?_path spelled isKey ends, ?_⟩
    rw [goesOn, toStep?, get?_move, leads]
    rfl
  constructor
  · intro index bounded
    have position : ∀ span, context.get? scope ⟨path.anchor, path.keys ++ [.index index], span⟩ =
        (context.get? scope path).bind (·.item? index) := fun span => goesOn (.index index) span
    refine ⟨?bracketed, ?dotted, ?computed⟩
    case bracketed =>
      obtain ⟨span, grown⟩ := Path.ofText?_index spelled ends bounded
      exact ⟨_, grown, position span⟩
    case dotted =>
      obtain ⟨span, grown⟩ := Path.ofText?_dot spelled ends bounded
      exact ⟨_, grown, position span⟩
    case computed =>
      intro keyText key leads isPosition
      have resolves := computed keyText key leads
      simpa only [isPosition.follow? bounded] using resolves
  · intro keyText n leads negative
    have resolves := computed keyText _ leads
    simpa only [Value.toStep?_of_neg negative, Option.bind_none, Option.bind_fun_none] using resolves

/-- A list under a name, and values to look into it by. -/
def rowsContext : Context :=
  [.value (.map [("at", .integer 1), ("digits", .string "1"), ("less", .integer (-1)),
    ("rows", .list [.bool true, .null])]) none]

/-- The second row is spelled in four ways, and there is no row below the first one. -/
theorem resolves_position_rows :
    let scope : Scope := ⟨.null, .null⟩
    rowsContext.Resolves scope "rows[1]".toList (some .null) ∧
      rowsContext.Resolves scope "rows.1".toList (some .null) ∧
      rowsContext.Resolves scope "rows[at]".toList (some .null) ∧
      rowsContext.Resolves scope "rows[digits]".toList (some .null) ∧
      rowsContext.Resolves scope "rows[less]".toList none := by
  intro scope
  have leads {name : String} {value : Value} (word : isWord name = true)
      (found : ∀ span, rowsContext.get? scope ⟨.relative, [.name name], span⟩ = some value) :
      rowsContext.Resolves scope name.toList (some value) :=
    ⟨_, (Path.ofText?_word word).1, found _⟩
  have rows : isWord "rows" = true := by decide
  have last := (Path.ofText?_word rows).2
  obtain ⟨positions, negative⟩ := resolves_position
    (leads rows fun _ => rfl) (by rw [last]; simp)
  obtain ⟨bracketed, dotted, computed⟩ := positions 1 (by decide)
  exact ⟨bracketed, dotted,
    computed _ _ (@leads "at" (.integer 1) (by decide) fun _ => rfl) (.integer (by decide)),
    computed _ _ (@leads "digits" (.string "1") (by decide) fun _ => rfl) .digits,
    negative _ _ (@leads "less" (.integer (-1)) (by decide) fun _ => rfl) (by decide)⟩

end Context

end Dust
