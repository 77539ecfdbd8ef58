import Dust.Proofs.Render.Law
import Dust.Proofs.Render.Run

/-!
# Parameters one by one and all at once

Helpers ask for parameters by name, while sections and included templates take the values of all of
them. Of several parameters with one name the last one counts in both cases. They differ where it
has no value: asked for by name it hides those before it, and among all values it is passed by.
-/

namespace Dust

namespace Params

variable (params : Params) (scope : Scope)

/-- The value of a parameter that is not rendered, if it has one. -/
def value? : Argument → Option Value
  | .literal literal => some literal.toValue
  | .path path => params.context.get? scope path
  | .interpolated _ => none

/-- The value of the last parameter of a name that has one, in a list of parameters. -/
def lastValue? (name : String) (list : List Param) : Option Value :=
  list.reverse.findSome? fun param =>
    if param.name.name = name then params.value? scope param.argument else none

/-- The last parameter of a name has no value, while an earlier one has one. -/
def HidesValue (name : String) : Prop :=
  (∃ last, params.find? name = some last ∧ params.value? scope last = none) ∧
    ∃ param ∈ params.list, param.name.name = name ∧ params.value? scope param.argument ≠ none

/-- No parameter is rendered: all are literals and paths. -/
def IsPlain : Prop :=
  ∀ param ∈ params.list, ∀ body, param.argument ≠ .interpolated body

variable {params} {scope}

/-- The last value is looked for behind the first parameter first. -/
theorem lastValue?_cons (name : String) (param : Param) (rest : List Param) :
    params.lastValue? scope name (param :: rest) =
      (params.lastValue? scope name rest).or
        (if param.name.name = name then params.value? scope param.argument else none) := by
  simp [lastValue?, List.findSome?_append]

/-- There is no last value if no parameter of the name has one. -/
theorem lastValue?_eq_none_iff {name : String} {list : List Param} :
    params.lastValue? scope name list = none ↔
      ∀ param ∈ list, param.name.name = name → params.value? scope param.argument = none := by
  simp [lastValue?]

/-- A parameter that is not rendered has its value without any effect. -/
theorem runFrom_resolve {argument : Argument} (plain : ∀ body, argument ≠ .interpolated body)
    (state : RenderState) :
    (params.resolve argument).runFrom state =
      (.ok (params.value? ⟨state.root, params.globals⟩ argument), state) := by
  cases argument with
  | literal literal => rfl
  | path path => rfl
  | interpolated body => exact absurd rfl (plain body)

/-- Asked for by name, the last parameter of the name is found. -/
theorem runFrom_get? (plain : params.IsPlain) (name : String) (state : RenderState) :
    (params.get? name).runFrom state =
      (.ok ((params.find? name).bind (params.value? ⟨state.root, params.globals⟩)), state) := by
  unfold get?
  cases found : params.find? name with
  | none => rfl
  | some argument =>
    obtain ⟨param, mem, rfl⟩ := find?_mem found
    exact runFrom_resolve (plain param mem) state

/-- Adding the values of parameters gives every name the last one among them, or else leaves the one
that it has. -/
theorem runFrom_resolveInto {list : List Param}
    (plain : ∀ param ∈ list, ∀ body, param.argument ≠ .interpolated body) (entries : Dict Value)
    (state : RenderState) :
    ∃ found, (params.resolveInto entries list).runFrom state = (.ok found, state) ∧
      ∀ name, found.get? name =
        (params.lastValue? ⟨state.root, params.globals⟩ name list).or (entries.get? name) := by
  induction list generalizing entries with
  | nil => exact ⟨entries, rfl, fun name => rfl⟩
  | cons param rest induction =>
    have resolved : (params.resolve param.argument).runFrom state =
        (.ok (params.value? ⟨state.root, params.globals⟩ param.argument), state) :=
      runFrom_resolve (plain param List.mem_cons_self) state
    have later := induction fun other mem => plain other (List.mem_cons_of_mem _ mem)
    simp only [resolveInto, RenderM.runFrom_bind, resolved]
    cases isValue : params.value? ⟨state.root, params.globals⟩ param.argument with
    | none =>
      obtain ⟨found, runs, each⟩ := later entries
      refine ⟨found, runs, fun name => ?_⟩
      rw [each, lastValue?_cons, isValue, ite_self, Option.or_none]
    | some value =>
      obtain ⟨found, runs, each⟩ := later (entries.insert param.name.name value)
      refine ⟨found, runs, fun name => ?_⟩
      rw [each, lastValue?_cons, isValue, Option.or_assoc]
      by_cases own : param.name.name = name
      · rw [if_pos own, ← own, Dict.get?_insert_self, Option.some_or]
      · rw [if_neg own, Dict.get?_insert_of_ne _ _ (Ne.symm own), Option.none_or]

/-- Where the parameter that is found has a value, it is the last value. -/
theorem lastValue?_of_find? {name : String} {last : Argument} {value : Value}
    (found : params.find? name = some last) (isValue : params.value? scope last = some value) :
    params.lastValue? scope name params.list = some value := by
  obtain ⟨param, first, rfl⟩ := Option.map_eq_some_iff.mp found
  obtain ⟨named, later, earlier, split, others⟩ := List.find?_eq_some_iff_append.mp first
  have own : param.name.name = name := of_decide_eq_true named
  refine List.findSome?_eq_some_iff.mpr ⟨later, param, earlier, split, ?_, fun other mem => ?_⟩
  · rw [if_pos own, isValue]
  · have differ : other.name.name ≠ name := by simpa using others other mem
    rw [if_neg differ]

/-- What is found by name is the last value, unless the last parameter of the name hides one. -/
theorem find?_bind_eq_lastValue?_iff (name : String) :
    (params.find? name).bind (params.value? scope) = params.lastValue? scope name params.list ↔
      ¬ params.HidesValue scope name := by
  cases found : params.find? name with
  | none =>
    have absent : ∀ param ∈ params.list, param.name.name ≠ name := by
      simpa [find?] using found
    have valueless : params.lastValue? scope name params.list = none :=
      lastValue?_eq_none_iff.mpr fun param mem own => absurd own (absent param mem)
    have shown : ¬ params.HidesValue scope name := by
      rintro ⟨⟨last, isLast, -⟩, -⟩
      cases found.symm.trans isLast
    simp [valueless, shown]
  | some last =>
    rw [Option.bind_some]
    cases isValue : params.value? scope last with
    | some value =>
      have shown : ¬ params.HidesValue scope name := by
        rintro ⟨⟨other, isLast, valueless⟩, -⟩
        cases found.symm.trans isLast
        cases isValue.symm.trans valueless
      simp [lastValue?_of_find? found isValue, shown]
    | none =>
      rw [eq_comm, lastValue?_eq_none_iff]
      constructor
      · rintro valueless ⟨-, param, mem, own, isOne⟩
        exact isOne (valueless param mem own)
      · intro shown param mem own
        exact Classical.byContradiction fun isOne =>
          shown ⟨⟨last, found, isValue⟩, param, mem, own, isOne⟩

/-- Of parameters that are literals and paths, what is found by name is the entry among the values
of all parameters, and nothing is found if there is no entry. The only exception is a last parameter
of the name that has no value and hides one: then nothing is found by name, and the entry is the
value of the last parameter of the name that has one. Neither way has any effect. -/
theorem get?_eq_entry_iff {params : Params} (plain : params.IsPlain) (name : String)
    (state : RenderState) :
    let scope : Scope := ⟨state.root, params.globals⟩
    ∃ found entries, (params.get? name).runFrom state = (.ok found, state) ∧
      params.resolveAll.runFrom state = (.ok entries, state) ∧
      (found = entries.get? name ↔ ¬ params.HidesValue scope name) ∧
      (params.HidesValue scope name →
        found = none ∧ ∃ value, entries.get? name = some value ∧
          params.lastValue? scope name params.list = some value) := by
  intro scope
  obtain ⟨entries, runs, each⟩ := runFrom_resolveInto plain [] state
  have entry : entries.get? name = params.lastValue? scope name params.list := by
    rw [each]
    exact Option.or_none
  refine ⟨_, entries, runFrom_get? plain name state, runs, ?_, fun hides => ⟨?_, ?_⟩⟩
  · rw [entry]
    exact find?_bind_eq_lastValue?_iff name
  · obtain ⟨⟨last, found, valueless⟩, -⟩ := hides
    rw [found, Option.bind_some, valueless]
  · obtain ⟨-, param, mem, own, isOne⟩ := hides
    rw [entry]
    cases isLast : params.lastValue? scope name params.list with
    | some value => exact ⟨value, rfl, rfl⟩
    | none => exact absurd (lastValue?_eq_none_iff.mp isLast param mem own) isOne

/-- A number and a path that leads nowhere, under one name, around another parameter. -/
def repeated : Params where
  list :=
    [⟨⟨"key", default⟩, .literal (.integer 1)⟩, ⟨⟨"other", default⟩, .literal (.string "x")⟩,
      ⟨⟨"key", default⟩, .path ⟨.relative, [.name "missing"], default⟩⟩]
  context := []
  globals := .null
  render _ _ := pure ()

/-- None of the parameters is rendered. -/
theorem isPlain_repeated : repeated.IsPlain := by
  simp [IsPlain, repeated]

/-- The path hides the number. -/
theorem hidesValue_repeated : repeated.HidesValue ⟨.null, .null⟩ "key" :=
  ⟨⟨_, rfl, rfl⟩, _, List.mem_cons_self, rfl, by simp [value?]⟩

/-- Under the name with two parameters nothing is found by name, and the entry is the number. -/
theorem get?_eq_entry_iff_repeated :
    repeated.IsPlain ∧ repeated.HidesValue ⟨.null, .null⟩ "key" ∧
      (repeated.get? "key").runFrom {} = (.ok none, {}) ∧
      ∃ entries, repeated.resolveAll.runFrom {} = (.ok entries, {}) ∧
        entries.get? "key" = some (.integer 1) := by
  obtain ⟨found, entries, byName, all, -, hidden⟩ :=
    get?_eq_entry_iff isPlain_repeated "key" {}
  obtain ⟨rfl, value, isEntry, isLast⟩ := hidden hidesValue_repeated
  obtain rfl : Value.integer 1 = value := Option.some.inj isLast
  exact ⟨isPlain_repeated, hidesValue_repeated, byName, entries, all, isEntry⟩

/-- What is found by name is not always the entry among the values of all parameters. -/
theorem get?_misses_entry :
    ¬ ∀ (params : Params) (name : String) (state : RenderState), params.IsPlain →
      ∃ found entries, (params.get? name).runFrom state = (.ok found, state) ∧
        params.resolveAll.runFrom state = (.ok entries, state) ∧ found = entries.get? name := by
  intro always
  obtain ⟨found, entries, byName, all, same⟩ := always repeated "key" {} isPlain_repeated
  have noValue : (repeated.get? "key").runFrom {} = (.ok none, {}) := rfl
  have isFound : found = none := Except.ok.inj (congrArg Prod.fst (byName.symm.trans noValue))
  have values : repeated.resolveAll.runFrom {} =
      (.ok [("key", .integer 1), ("other", .string "x")], {}) := by
    rfl
  have isEntry : entries = [("key", .integer 1), ("other", .string "x")] :=
    Except.ok.inj (congrArg Prod.fst (all.symm.trans values))
  rw [isFound, isEntry] at same
  cases same

end Params

end Dust
