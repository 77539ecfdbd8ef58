import Dust.Render.Context

/-!
# What looking up depends on

A path begins with the current value or with what its first key leads to, and goes on from there by
its other keys, some of which are values of paths themselves. So two contexts from which a path and
all paths in it start alike lead to the same value.
-/

namespace Dust

mutual

/-- Something holds of a path and of all paths in its keys. -/
def Path.Throughout (holds : Path → Prop) : Path → Prop
  | ⟨anchor, keys, span⟩ => holds ⟨anchor, keys, span⟩ ∧ Path.ThroughoutKeys holds keys

/-- Something holds of the path that a key is, if it is one, and of all paths in it. -/
def Key.Throughout (holds : Path → Prop) : Key → Prop
  | .path path => path.Throughout holds
  | _ => True

/-- Something holds of all paths in keys. -/
def Path.ThroughoutKeys (holds : Path → Prop) : List Key → Prop
  | [] => True
  | key :: rest => key.Throughout holds ∧ Path.ThroughoutKeys holds rest

end

/-- Something holds of all paths in keys if it holds of those in each of them. -/
theorem Path.throughoutKeys_iff {holds : Path → Prop} {keys : List Key} :
    ThroughoutKeys holds keys ↔ ∀ key ∈ keys, key.Throughout holds := by
  induction keys with
  | nil => simp [ThroughoutKeys]
  | cons key rest induction => simp [ThroughoutKeys, induction]

mutual

/-- What holds of all paths holds throughout a path. -/
theorem Path.throughout_of_forall {holds : Path → Prop} (always : ∀ path, holds path) :
    ∀ path : Path, path.Throughout holds
  | ⟨_, keys, _⟩ => ⟨always _, Path.throughoutKeys_of_forall always keys⟩

/-- What holds of all paths holds throughout a key. -/
theorem Key.throughout_of_forall {holds : Path → Prop} (always : ∀ path, holds path) :
    ∀ key : Key, key.Throughout holds
  | .name _ | .index _ => trivial
  | .path path => path.throughout_of_forall always

/-- What holds of all paths holds throughout keys. -/
theorem Path.throughoutKeys_of_forall {holds : Path → Prop} (always : ∀ path, holds path) :
    ∀ keys, Path.ThroughoutKeys holds keys
  | [] => trivial
  | key :: rest => ⟨key.throughout_of_forall always, Path.throughoutKeys_of_forall always rest⟩

end

mutual

/-- What follows from two things that hold throughout a path holds there too. -/
theorem Path.Throughout.zip {first second third : Path → Prop}
    (follows : ∀ path, first path → second path → third path) : ∀ {path : Path},
    path.Throughout first → path.Throughout second → path.Throughout third
  | ⟨_, _, _⟩, ⟨here, inside⟩, ⟨alsoHere, alsoInside⟩ =>
    ⟨follows _ here alsoHere, Path.ThroughoutKeys.zip follows inside alsoInside⟩

/-- What follows from two things that hold throughout a key holds there too. -/
theorem Key.Throughout.zip {first second third : Path → Prop}
    (follows : ∀ path, first path → second path → third path) : ∀ {key : Key},
    key.Throughout first → key.Throughout second → key.Throughout third
  | .name _, _, _ | .index _, _, _ => trivial
  | .path _, inside, alsoInside => Path.Throughout.zip follows inside alsoInside

/-- What follows from two things that hold throughout keys holds there too. -/
theorem Path.ThroughoutKeys.zip {first second third : Path → Prop}
    (follows : ∀ path, first path → second path → third path) : ∀ {keys : List Key},
    Path.ThroughoutKeys first keys → Path.ThroughoutKeys second keys →
      Path.ThroughoutKeys third keys
  | [], _, _ => trivial
  | _ :: _, ⟨here, later⟩, ⟨alsoHere, alsoLater⟩ =>
    ⟨Key.Throughout.zip follows here alsoHere, Path.ThroughoutKeys.zip follows later alsoLater⟩

end

namespace Context

/-- What the first step of a path leads to. -/
def begin? (context : Context) (scope : Scope) : Anchor → Step → Option Value
  | .current, step => (context.current scope).follow? step
  | .relative, step => context.find? scope step

variable (context : Context) (scope : Scope) (other : Context) (otherScope : Scope)

/-- A path starts alike from two contexts: with the same current value, or with the same value for
the step that its first key stands for. -/
def StartsAlike (path : Path) : Prop :=
  match path.keys with
  | [] => context.current scope = other.current otherScope
  | first :: _ => ∀ step, context.toStep? scope first = some step →
    context.begin? scope path.anchor step = other.begin? otherScope path.anchor step

variable {context scope other otherScope}

mutual

/-- A path leads to the same value from two contexts from which all paths in it start alike. -/
theorem get?_congr : ∀ path : Path,
    path.Throughout (context.StartsAlike scope other otherScope) →
      context.get? scope path = other.get? otherScope path
  | ⟨_, [], _⟩, ⟨starts, _⟩ => by
    simp only [get?]
    exact congrArg some starts
  | ⟨anchor, first :: rest, _⟩, ⟨starts, inFirst, inRest⟩ => by
    simp only [get?, ← toStep?_congr first inFirst, ← followKeys?_congr _ rest inRest]
    cases isStep : context.toStep? scope first with
    | none => rfl
    | some step =>
      have same := starts step isStep
      cases anchor with
      | current => exact congrArg (· >>= fun value => context.followKeys? scope value rest) same
      | relative => exact congrArg (· >>= fun value => context.followKeys? scope value rest) same

/-- A key stands for the same step in two contexts from which all paths in it start alike. -/
theorem toStep?_congr : ∀ key : Key,
    key.Throughout (context.StartsAlike scope other otherScope) →
      context.toStep? scope key = other.toStep? otherScope key
  | .name _, _ | .index _, _ => rfl
  | .path path, inside => by rw [toStep?, toStep?, get?_congr path inside]

/-- Keys lead to the same value in two contexts from which all paths in them start alike. -/
theorem followKeys?_congr : ∀ (value : Value) (keys : List Key),
    Path.ThroughoutKeys (context.StartsAlike scope other otherScope) keys →
      context.followKeys? scope value keys = other.followKeys? otherScope value keys
  | _, [], _ => rfl
  | value, key :: rest, ⟨here, later⟩ => by
    simp only [followKeys?, toStep?_congr key here, followKeys?_congr _ rest later]

end

/-- Paths lead to the same values from two contexts with the same current value that find the same
values by every step. -/
theorem get?_congr_of_find? (current : context.current scope = other.current otherScope)
    (find : ∀ step, context.find? scope step = other.find? otherScope step) (path : Path) :
    context.get? scope path = other.get? otherScope path := by
  refine get?_congr path (path.throughout_of_forall fun ⟨anchor, keys, _⟩ => ?_)
  cases keys with
  | nil => exact current
  | cons first rest =>
    intro step _
    cases anchor with
    | current => exact congrArg (·.follow? step) current
    | relative => exact find step

end Context

end Dust
