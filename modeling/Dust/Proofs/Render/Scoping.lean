import Dust.Proofs.Render.LookUp
import Dust.Syntax.PathReader

/-!
# Names in frames

A name is looked up in the frames from the innermost one on. A value that has no entry for it is
passed by, and the first one that has an entry hides all that are behind it: what follows the name
is asked of this entry alone. Before all values come the names that tell the place in a list.
-/

namespace Dust

/-! ### Paths as they are read -/

namespace Path

/-- The name that a path begins with, if its first key is one. -/
def firstName? (path : Path) : Option String :=
  match path.keys.head? with
  | some (.name name) => some name
  | _ => none

/-- A path begins with a name, unless it begins at the current value. -/
def IsAnchored (path : Path) : Prop :=
  path.anchor = .relative → ∃ name, path.firstName? = some name

/-- A path is read from some tokens. -/
def IsRead (path : Path) : Prop :=
  ∃ input tokens rest, Path.read input tokens = .ok (path, rest)

/-- All paths in a path that goes on begin as they should if they do in it and in its new key. -/
theorem extend_anchored {path : Path} (anchored : path.Throughout IsAnchored) {key : Key}
    (inKey : key.Throughout IsAnchored) (span : Span) :
    (path.extend key span).Throughout IsAnchored := by
  obtain ⟨anchor, keys, whole⟩ := path
  obtain ⟨begins, inside⟩ := anchored
  refine ⟨fun isRelative => ?_, ?_⟩
  · obtain ⟨name, isFirst⟩ := begins isRelative
    refine ⟨name, ?_⟩
    cases keys with
    | nil => cases isFirst
    | cons first rest => exact isFirst
  · rw [throughoutKeys_iff] at inside ⊢
    intro other mem
    rcases List.mem_append.mp mem with old | new
    · exact inside other old
    · exact List.mem_singleton.mp new ▸ inKey

/-- A position is no path. -/
theorem index_anchored {token : Token} {key : Key} (read : token.index = .ok key) :
    key.Throughout IsAnchored := by
  obtain ⟨index, -, rfl⟩ := Token.index_eq_ok read
  trivial

/-- Reading paths keeps the way in which all paths in them begin. -/
theorem readingKeeps_anchored : ReadingKeeps
    (fun outer _ => ∀ path ∈ outer, path.Throughout IsAnchored)
    (fun paths _ => ∀ path ∈ paths, path.Throughout IsAnchored) where
  name around := List.forall_mem_cons.mpr ⟨⟨fun _ => ⟨_, rfl⟩, trivial, trivial⟩, around⟩
  current around := List.forall_mem_cons.mpr ⟨⟨nofun, trivial⟩, around⟩
  currentName around := List.forall_mem_cons.mpr ⟨⟨nofun, trivial, trivial⟩, around⟩
  extend := fun {_ _ _ _ _ key} begun _ read => by
    obtain ⟨here, around⟩ := List.forall_mem_cons.mp begun
    have inKey : key.Throughout IsAnchored := by
      rcases read with ⟨name, rfl⟩ | ⟨number, read⟩
      · trivial
      · exact index_anchored read
    exact List.forall_mem_cons.mpr ⟨extend_anchored here inKey _, around⟩
  enter := id
  close := fun {path _ _ _ _} begun => by
    obtain ⟨inner, begun⟩ := List.forall_mem_cons.mp begun
    obtain ⟨whole, around⟩ := List.forall_mem_cons.mp begun
    have inKey : Key.Throughout IsAnchored (.path path) := inner
    exact List.forall_mem_cons.mpr ⟨extend_anchored whole inKey _, around⟩

/-- All paths in a path that is read begin with a name or at the current value. -/
theorem IsRead.anchored {path : Path} (read : path.IsRead) : path.Throughout IsAnchored := by
  obtain ⟨input, tokens, rest, read⟩ := read
  exact readingKeeps_anchored.readStart (by simp) read path List.mem_cons_self

end Path

/-! ### Steps -/

/-- The value that steps lead to from a value. -/
def Value.followAll? (value : Value) (steps : List Step) : Option Value :=
  steps.foldlM Value.follow? value

/-- Steps lead nowhere if the first ones of them do not. -/
theorem Value.followAll?_append (value : Value) (front back : List Step) :
    value.followAll? (front ++ back) = (value.followAll? front).bind (·.followAll? back) := by
  simp [followAll?, List.foldlM_append]

/-- A frame that holds no value. -/
def Frame.IsTransparent (frame : Frame) : Prop :=
  frame.value? = none

namespace Context

/-- The names that tell the place in a list. -/
def placeNames : List String :=
  ["$idx", "$key", "$len", "$iter"]

variable (context : Context) (scope : Scope)

/-- Keys lead where the steps lead that they stand for, and nowhere if one of them stands for
none. -/
theorem followKeys?_eq (value : Value) (keys : List Key) :
    context.followKeys? scope value keys =
      (keys.mapM (context.toStep? scope)).bind value.followAll? := by
  induction keys generalizing value with
  | nil => rfl
  | cons key rest induction =>
    rw [followKeys?, List.mapM_cons]
    cases context.toStep? scope key with
    | none => rfl
    | some step =>
      cases steps : rest.mapM (context.toStep? scope) with
      | none => simp [induction, steps]
      | some later => simp [induction, steps, Value.followAll?]

/-- No other name tells a place in a list. -/
theorem special?_of_notMem {name : String} (other : name ∉ placeNames) :
    context.special? name = none := by
  simp only [placeNames, List.mem_cons, not_or] at other
  unfold special?
  cases context.iteration? with
  | none => rfl
  | some iteration =>
    simp only [Option.bind_eq_bind, Option.bind_some]
    split <;> simp_all

/-- A value without an entry for a name is passed by when the name is looked for. -/
theorem find?_cons_of_get?_eq_none {value : Value} {name : String}
    (missing : value.get? name = none) {iteration : Option Iteration}
    (place : iteration = none ∨ name ∉ placeNames) :
    find? (.value value iteration :: context) scope (.name name) =
      context.find? scope (.name name) := by
  have special : special? (.value value iteration :: context) name = context.special? name := by
    rcases place with rfl | other
    · rfl
    · rw [special?_of_notMem _ other, special?_of_notMem _ other]
  simp only [find?, special, search?, List.findSome?_cons, Frame.value?, Option.bind_some,
    Value.follow?, missing]

/-- The entry of the innermost value is what a name stands for, unless it tells a place in a
list. -/
theorem find?_cons_of_get?_eq_some {value entry : Value} {name : String}
    (found : value.get? name = some entry) {iteration : Option Iteration}
    (free : special? (.value value iteration :: context) name = none) :
    find? (.value value iteration :: context) scope (.name name) = some entry := by
  simp only [find?, free, search?, List.findSome?_cons, Frame.value?, Option.bind_some,
    Value.follow?, found, Option.none_or, Option.some_or]

/-- A path begins with the name of an entry of a value in front, and the name does not tell a place
in a list. -/
def Enters (value : Value) (iteration : Option Iteration) (path : Path) (entry : Value) : Prop :=
  path.anchor = .relative ∧ ∃ name, path.firstName? = some name ∧ value.get? name = some entry ∧
    special? (.value value iteration :: context) name = none

/-- A path that begins with the name of an entry leads where its other keys lead from this entry. -/
theorem get?_of_enters {value entry : Value} {iteration : Option Iteration} {path : Path}
    (enters : context.Enters value iteration path entry) :
    get? (.value value iteration :: context) scope path =
      (path.keys.tail.mapM (toStep? (.value value iteration :: context) scope)).bind
        entry.followAll? := by
  obtain ⟨_, keys, _⟩ := path
  obtain ⟨anchor, name, isFirst, found, free⟩ := enters
  cases anchor
  match keys, isFirst with
  | .name _ :: rest, rfl =>
    have entered := context.find?_cons_of_get?_eq_some scope found free
    simp only [get?, toStep?, entered, Option.bind_eq_bind, Option.bind_some, followKeys?_eq,
      List.tail_cons]

/-- A search passes by a frame in which it finds nothing. -/
theorem findSome?_passes {α : Type} {find : Frame → Option α} {frame : Frame}
    (blind : find frame = none) (frames : Context) :
    (frames ++ frame :: context).findSome? find = (frames ++ context).findSome? find := by
  simp [List.findSome?_append, blind]

section Transparent

variable {frame : Frame} (transparent : frame.IsTransparent) (frames : Context)

include transparent

/-- The current value is behind a frame without a value. -/
theorem current_transparent :
    (frames ++ frame :: context).current scope = (frames ++ context).current scope := by
  rw [current, current, findSome?_passes context transparent]

/-- What a step leads to is behind a frame without a value. -/
theorem find?_transparent (step : Step) :
    (frames ++ frame :: context).find? scope step = (frames ++ context).find? scope step := by
  have unplaced : frame.iteration? = none := by
    cases frame with
    | value => cases transparent
    | blocks | selection => rfl
  have placed : (frames ++ frame :: context).iteration? = (frames ++ context).iteration? :=
    findSome?_passes context unplaced frames
  have valueless : frame.value?.bind (·.follow? step) = none := by
    rw [transparent, Option.bind_none]
  have searched :
      (frames ++ frame :: context).search? scope step = (frames ++ context).search? scope step := by
    rw [search?, search?, findSome?_passes context valueless]
  simp only [find?, special?, placed, searched]

end Transparent

/-! ### Scoping -/

/-- How frames in front of a context, and among its frames, change what paths lead to. -/
structure IsLexical : Prop where
  /-- A value in front makes no difference to a path if the path and all paths in it begin with
  names that are looked for everywhere, and the value has no entry for any of them. If the value is
  an item of a list, the names must not tell its place. -/
  passed : ∀ (value : Value) (iteration : Option Iteration) (path : Path), path.IsRead →
    (path.Throughout fun inner => inner.anchor = .relative ∧
      ∀ name, inner.firstName? = some name →
        value.get? name = none ∧ (iteration = none ∨ name ∉ placeNames)) →
    get? (.value value iteration :: context) scope path = context.get? scope path
  /-- If the value has an entry for the first name of a path, the path leads where its other keys
  lead from this entry. -/
  hidden : ∀ (value : Value) (iteration : Option Iteration) (path : Path) (entry : Value),
    context.Enters value iteration path entry →
    get? (.value value iteration :: context) scope path =
      (path.keys.tail.mapM (toStep? (.value value iteration :: context) scope)).bind
        entry.followAll?
  /-- If already some of these keys lead nowhere from the entry, the path does not lead anywhere,
  whatever the frames behind, the data and the globals hold. -/
  missed : ∀ (value : Value) (iteration : Option Iteration) (path : Path) (entry : Value),
    context.Enters value iteration path entry →
    ∀ front back, path.keys.tail = front ++ back →
      (front.mapM (toStep? (.value value iteration :: context) scope)).bind
        entry.followAll? = none →
      get? (.value value iteration :: context) scope path = none
  /-- Frames without values make no difference wherever they are. -/
  transparent : ∀ (frames : Context) (frame : Frame), frame.IsTransparent →
    (frames ++ frame :: context).current scope = (frames ++ context).current scope ∧
    (∀ path, (frames ++ frame :: context).get? scope path = (frames ++ context).get? scope path) ∧
    ∀ text,
      (frames ++ frame :: context).getDotted? scope text = (frames ++ context).getDotted? scope text

/-- Names are looked up from the innermost value on that has an entry for them, and what follows a
name is asked of this entry alone. -/
theorem isLexical : context.IsLexical scope where
  passed := by
    intro value iteration path read misses
    refine get?_congr path (read.anchored.zip ?_ misses)
    rintro ⟨_, keys, _⟩ anchored ⟨isRelative, missing⟩
    obtain ⟨name, isFirst⟩ := anchored isRelative
    cases isRelative
    match keys, isFirst with
    | .name _ :: _, rfl =>
      intro step isStep
      cases isStep
      obtain ⟨absent, place⟩ := missing name rfl
      exact context.find?_cons_of_get?_eq_none scope absent place
  hidden := fun _ _ _ _ enters => context.get?_of_enters scope enters
  missed := by
    intro value iteration path entry enters front back split misses
    rw [context.get?_of_enters scope enters, split, List.mapM_append]
    cases steps : front.mapM (toStep? (.value value iteration :: context) scope) with
    | none => rfl
    | some begun =>
      rw [steps, Option.bind_some] at misses
      cases back.mapM (toStep? (.value value iteration :: context) scope) with
      | none => rfl
      | some later =>
        simp only [Option.bind_eq_bind, Option.bind_some, Option.pure_def,
          Value.followAll?_append, misses, Option.bind_none]
  transparent := fun frames frame transparent =>
    have current := context.current_transparent scope transparent frames
    have find := context.find?_transparent scope transparent frames
    ⟨current, get?_congr_of_find? current find, fun text => by simp only [getDotted?, find]⟩

/-- A path with another one in brackets. -/
def pricePath : Path :=
  ⟨.relative, [.name "price", .path ⟨.relative, [.name "code"], ⟨6, 10⟩⟩], ⟨0, 11⟩⟩

/-- The path is read from its tokens. -/
theorem isRead_pricePath : pricePath.IsRead :=
  ⟨⟨[], none⟩, [⟨.identifier, "price".toList, 0⟩, ⟨.openBracket, ['['], 5⟩,
    ⟨.identifier, "code".toList, 6⟩, ⟨.closeBracket, [']'], 10⟩], [], by rfl⟩

/-- A value with other entries is passed by. A text in place of the prices hides them, and nothing
is found in it. -/
theorem isLexical_pricePath :
    let context : Context :=
      [.blocks [], .value (.map [("code", .string "a"), ("price", .map [("a", .integer 5)])]) none]
    get? (.value (.map [("size", .integer 1)]) none :: context) ⟨.null, .null⟩ pricePath =
      some (.integer 5) ∧
    get? (.value (.map [("price", .string "dear")]) none :: context) ⟨.null, .null⟩ pricePath =
      none := by
  intro context
  have lexical := context.isLexical ⟨.null, .null⟩
  constructor
  · rw [lexical.passed _ _ pricePath isRead_pricePath]
    · rfl
    · simp [pricePath, Path.Throughout, Path.ThroughoutKeys, Key.Throughout, Path.firstName?,
        Value.get?, Dict.get?]
  · exact lexical.missed _ _ _ _ ⟨rfl, "price", rfl, rfl, rfl⟩ _ [] (List.append_nil _).symm rfl

end Context

end Dust
