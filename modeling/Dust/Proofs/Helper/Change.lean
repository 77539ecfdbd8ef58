import Dust.Helper.Builtin
import Dust.Proofs.Render.Law
import Dust.Proofs.Render.Run
import Dust.Proofs.Value.Inside

/-!
# Changes of the data

The helpers `set` and `unset` find out what they are asked for, and then make the change or refuse
it. Finding out looks at the parameters alone. Making the change looks at the data alone: it gives
one key an entry or takes the entry away, and nothing else becomes different.

A refused change is meant to leave the data as they are. It does so except where `set` calculates
with a key that has no value: the zero that the calculation starts from stays in the data when the
calculation fails.
-/

namespace Dust

/-- The entries of data that can be changed. Nothing counts as a map without entries. -/
def Value.entries? : Value → Option (Dict Value)
  | null => some []
  | map entries => some entries
  | _ => none

/-- The dictionary with an entry under a key, or with none. -/
def Dict.put {α : Type} (entries : Dict α) (key : String) : Option α → Dict α
  | some value => entries.insert key value
  | none => entries.erase key

/-- What is put under a key is found there. -/
theorem Dict.Sorted.get?_put_self {α : Type} {entries : Dict α} (sorted : entries.Sorted)
    (key : String) (entry : Option α) : (entries.put key entry).get? key = entry := by
  cases entry with
  | some value => exact Dict.get?_insert_self entries key value
  | none => exact sorted.get?_erase_self key

/-- Other keys keep their values. -/
theorem Dict.get?_put_of_ne {α : Type} (entries : Dict α) {key other : String} (entry : Option α)
    (differ : other ≠ key) : (entries.put key entry).get? other = entries.get? other := by
  cases entry with
  | some value => exact entries.get?_insert_of_ne value differ
  | none => exact entries.get?_erase_of_ne differ

/-- The keys stay in order. -/
theorem Dict.Sorted.put {α : Type} {entries : Dict α} (sorted : entries.Sorted) (key : String)
    (entry : Option α) : (entries.put key entry).Sorted := by
  cases entry with
  | some value => exact sorted.insert key value
  | none => exact sorted.erase key

/-- The entries of ordered data are in order. -/
theorem Value.HasOrder.sorted {root : Value} (ordered : root.HasOrder) {entries : Dict Value}
    (found : root.entries? = some entries) : entries.Sorted := by
  cases root with
  | null =>
    cases found
    exact List.Pairwise.nil
  | map entries =>
    cases found
    exact ordered
  | _ => cases found

/-- Giving a key the value it has, or another one if it has none, changes the data exactly if it has
none. -/
theorem Value.map_insert_getD_eq_iff {root : Value} (ordered : root.HasOrder) {entries : Dict Value}
    (found : root.entries? = some entries) (key : String) (otherwise : Value) :
    .map (entries.insert key ((entries.get? key).getD otherwise)) = root ↔
      entries.get? key ≠ none := by
  cases held : entries.get? key with
  | none =>
    refine iff_of_false (fun same => ?_) fun differ => differ rfl
    rw [← same] at found
    have inserted : entries.insert key otherwise = entries := by
      simpa [entries?] using found
    have added := entries.get?_insert_self key otherwise
    rw [inserted, held] at added
    cases added
  | some value =>
    refine iff_of_true ?_ (by simp)
    rw [Option.getD_some, (ordered.sorted found).insert_same held]
    cases root with
    | map known =>
      cases found
      rfl
    | null =>
      cases found
      cases held
    | _ => cases found

/-! ### What is asked for -/

namespace Helper

/-- A change of the data. -/
inductive Change where
  /-- A key is given a value. -/
  | put (key : String) (given : Value)
  /-- An operation is applied to the value of a key, which starts at zero. -/
  | calculate (key : String) (operation : Operation) (operand : Value)
  /-- A key is removed. -/
  | remove (key : String)

section Requests

variable {m : Type → Type} [Monad m] (has : String → Bool) (find : String → m (Option Value))

/-- Finds the key of a change. -/
def requestedKey : ExceptT ChangeFault m String := do
  match ← find "key" with
  | none => throw .missingKey
  | some .null => throw .missingKey
  | some (.string key) => return key
  | some _ => throw .keyNotText

/-- Finds the change that `set` is asked for, from what tells whether there is a parameter of a name
and from what finds its value. -/
def requestSet : ExceptT ChangeFault m Change := do
  let key ← requestedKey find
  match ← find "value" with
  | some given => return .put key given
  | none =>
    match Operation.binary.find? fun operation => has operation.name with
    | none => throw .missingAction
    | some operation =>
      match ← find operation.name with
      | none => throw (.notNumber operation)
      | some operand =>
        if operand.quantity?.isNone then throw (.notNumber operation)
        else return .calculate key operation operand

/-- Finds the change that `unset` is asked for. -/
def requestUnset : ExceptT ChangeFault m Change := do
  return .remove (← requestedKey find)

end Requests

namespace Change

/-- The key of a change. -/
def key : Change → String
  | put key _ => key
  | calculate key _ _ => key
  | remove key => key

/-- Makes a change. -/
def perform : Change → ChangeM Unit
  | put key given => do
    let entries ← rootEntries
    replaceEntries (entries.insert key given)
  | calculate key operation operand => changeByOperation key operation operand
  | remove key => do
    let entries ← rootEntries
    replaceEntries (entries.erase key)

/-- What a change leaves under its key: what an operation starts from, if it has no result. -/
def entry (entries : Dict Value) : Change → Option Value
  | put _ given => some given
  | calculate key operation operand =>
    let current := (entries.get? key).getD (.integer 0)
    match operation.apply current (some operand) with
    | .value result => some result.toValue
    | _ => some current
  | remove _ => none

/-- How a change of entries ends. -/
def outcome (entries : Dict Value) : Change → Except Halt (Except ChangeFault Unit)
  | calculate key operation operand =>
    match operation.apply ((entries.get? key).getD (.integer 0)) (some operand) with
    | .overflow => .error .overflow
    | .undefined => .ok (.error (.failed operation))
    | .value _ => .ok (.ok ())
  | _ => .ok (.ok ())

end Change

/-- The helper `set` finds out what it is asked for, and makes that change. -/
theorem changeKeyValue_eq (call : Call) :
    changeKeyValue call = requestSet call.has call.get? >>= Change.perform := by
  unfold changeKeyValue requestSet
  rw [bind_assoc]
  refine bind_congr fun key => ?_
  rw [bind_assoc]
  refine bind_congr fun given => ?_
  cases given with
  | some given => exact (pure_bind _ _).symm
  | none =>
    cases Operation.binary.find? fun operation => call.has operation.name with
    | none => rfl
    | some operation =>
      simp only
      rw [bind_assoc]
      refine bind_congr fun operand => ?_
      cases operand with
      | none => rfl
      | some operand =>
        cases missing : operand.quantity?.isNone with
        | true =>
          simp only [missing, if_true]
          rfl
        | false =>
          simp only [missing, Bool.false_eq_true, if_false]
          exact (pure_bind _ _).symm

/-- The helper `unset` finds out what it is asked for, and makes that change. -/
theorem removeKey_eq (call : Call) :
    removeKey call = requestUnset call.get? >>= Change.perform := by
  unfold removeKey requestUnset
  rw [bind_assoc]
  rfl

/-! ### How a change is made -/

/-- Replacing the data leaves everything else. -/
theorem replaceEntries_runFrom (entries : Dict Value) (state : RenderState) :
    (replaceEntries entries).run.runFrom state =
      (.ok (.ok ()), { state with root := .map entries }) := rfl

/-- Data that are neither a map nor nothing have no entries to change. -/
theorem rootEntries_runFrom (state : RenderState) :
    rootEntries.run.runFrom state =
      match state.root.entries? with
      | none => (.ok (.error (.notMap state.root.typeName)), state)
      | some entries => (.ok (.ok entries), { state with root := .map entries }) := by
  obtain ⟨output, root, flags, pending, store, reports⟩ := state
  cases root <;> rfl

/-- A change is refused for data without entries. Otherwise it leaves its entry under its key, and
everything else as it is. -/
theorem Change.perform_runFrom (change : Change) (state : RenderState) :
    change.perform.run.runFrom state =
      match state.root.entries? with
      | none => (.ok (.error (.notMap state.root.typeName)), state)
      | some entries =>
        (change.outcome entries,
          { state with root := .map (entries.put change.key (change.entry entries)) }) := by
  cases change with
  | put key given =>
    unfold perform
    rw [RenderM.runFrom_run_bind, rootEntries_runFrom]
    cases state.root.entries? <;> rfl
  | remove key =>
    unfold perform
    rw [RenderM.runFrom_run_bind, rootEntries_runFrom]
    cases state.root.entries? <;> rfl
  | calculate key operation operand =>
    unfold perform changeByOperation
    rw [RenderM.runFrom_run_bind, rootEntries_runFrom]
    cases state.root.entries? with
    | none => rfl
    | some entries =>
      simp only
      rw [RenderM.runFrom_run_bind, replaceEntries_runFrom]
      simp only [outcome, entry, Change.key]
      cases operation.apply ((entries.get? key).getD (.integer 0)) (some operand) <;> rfl

/-- A helper that changes the data writes why it does not, if it does not. -/
theorem change_runFrom (name : String) (run : Call → ChangeM Unit) (call : Call)
    (state : RenderState) :
    (Renderer.runHelper call (change name run)).runFrom state =
      match (run call).run.runFrom state with
      | (.ok (.ok _), later) => (.ok (.ok ()), later)
      | (.ok (.error fault), later) =>
        (.ok (.ok ()),
          { later with
            output := later.output.write (name ++ " helper error: " ++ fault.message) })
      | (.error halt, later) => (.error halt, later) := by
  unfold change Renderer.runHelper
  simp only
  rw [RenderM.runFrom_liftBind]
  rcases (run call).run.runFrom state with ⟨(halt | (fault | done)), later⟩ <;> rfl

end Helper

/-! ### What is asked for by literals and paths -/

/-- The value of a parameter in data, unless it is a string with tags. -/
def Params.given? (params : Params) (root : Value) (name : String) : Option Value :=
  match params.find? name with
  | some (.literal literal) => some literal.toValue
  | some (.path path) => params.context.get? ⟨root, params.globals⟩ path
  | _ => none

/-- Finding the value of a parameter that is no string with tags leaves the state. -/
theorem Params.get?_runFrom {params : Params} (plain : ∀ body, ¬ Quoted params.list body)
    (name : String) (state : RenderState) :
    (params.get? name).runFrom state = (.ok (params.given? state.root name), state) := by
  unfold get? given?
  cases found : params.find? name with
  | none => rfl
  | some argument =>
    cases argument with
    | literal literal => rfl
    | path path => rfl
    | interpolated body =>
      obtain ⟨param, mem, same⟩ := Params.find?_mem found
      exact absurd ⟨param, mem, same⟩ (plain body)

namespace Helper

section Finding

variable {find : String → RenderM (Option Value)} {given : String → Option Value}
  {state : RenderState}
  (finds : ∀ name, (find name).runFrom state = (.ok (given name), state))

include finds

/-- The key of a change is that among what is given. -/
theorem requestedKey_runFrom :
    (requestedKey find).run.runFrom state =
      (.ok (requestedKey (m := Id) given).run, state) := by
  unfold requestedKey
  rw [RenderM.runFrom_liftBind, finds]
  simp only
  rcases given "key" with _ | (_ | _ | _ | _ | _ | _ | _) <;> rfl

/-- What `unset` is asked for is found among what is given. -/
theorem requestUnset_runFrom :
    (requestUnset find).run.runFrom state =
      (.ok (requestUnset (m := Id) given).run, state) := by
  unfold requestUnset
  rw [RenderM.runFrom_run_bind, requestedKey_runFrom finds, ExceptT.run_bind]
  rcases (requestedKey (m := Id) given).run with fault | key <;> rfl

/-- What `set` is asked for is found among what is given. -/
theorem requestSet_runFrom (has : String → Bool) :
    (requestSet has find).run.runFrom state =
      (.ok (requestSet (m := Id) has given).run, state) := by
  unfold requestSet
  rw [RenderM.runFrom_run_bind, requestedKey_runFrom finds, ExceptT.run_bind]
  rcases (requestedKey (m := Id) given).run with fault | key
  · rfl
  simp only
  rw [RenderM.runFrom_liftBind, finds]
  cases given "value" with
  | some given => rfl
  | none =>
    cases Operation.binary.find? fun operation => has operation.name with
    | none => rfl
    | some operation =>
      simp only
      rw [RenderM.runFrom_liftBind, finds]
      cases given operation.name with
      | none => rfl
      | some operand =>
        change (ite _ _ _ : ChangeM Change).run.runFrom state =
          (.ok (ite (operand.quantity?.isNone = true) (throw (.notNumber operation))
            (pure (.calculate key operation operand)) : ExceptT ChangeFault Id Change).run, state)
        split <;> rfl

end Finding

/-- The change that `set` is asked for in data, by parameters without strings with tags. -/
def setRequest (call : Call) (root : Value) : Except ChangeFault Change :=
  (requestSet (m := Id) call.has (call.given? root)).run

/-! ### Refused changes -/

/-- A calculation is asked for with a key that has no value in the data. -/
def CalculatesAfresh (asked : Except ChangeFault Change) (root : Value) : Prop :=
  ∃ key operation operand entries,
    asked = .ok (.calculate key operation operand) ∧
      root.entries? = some entries ∧ entries.get? key = none

/-- A change of entries fails only where a calculation does, and the calculation leaves what it has
started from. -/
theorem Change.entry_of_failed {change : Change} {entries : Dict Value} {fault : ChangeFault}
    (failed : change.outcome entries = .ok (.error fault)) :
    ∃ key operation operand, change = .calculate key operation operand ∧
      change.entry entries = some ((entries.get? key).getD (.integer 0)) := by
  cases change with
  | put key given => cases failed
  | remove key => cases failed
  | calculate key operation operand =>
    refine ⟨key, operation, operand, rfl, ?_⟩
    simp only [outcome] at failed
    simp only [entry]
    cases applied : operation.apply ((entries.get? key).getD (.integer 0)) (some operand) with
    | undefined => rfl
    | overflow => rfl
    | value result => simp [applied] at failed

section Refused

variable {name : String} {run : Call → ChangeM Unit} {call : Call} {request : ChangeM Change}
  {asked : Except ChangeFault Change} {state : RenderState} {message : String}
  (parts : run call = request >>= Change.perform)
  (asks : request.run.runFrom state = (.ok asked, state))
  (refused : ((Renderer.runHelper call (change name run)).runFrom state).2.output =
    state.output.write (name ++ " helper error: " ++ message))

include parts asks refused

/-- A change that has written why it is refused has not come to the data, or it has come to a
calculation of which what it starts from is left. -/
theorem refused_cases :
    (((Renderer.runHelper call (change name run)).runFrom state).2.root = state.root ∧
      ∀ change, asked = .ok change → state.root.entries? = none) ∨
    ∃ key operation operand entries,
      asked = .ok (.calculate key operation operand) ∧ state.root.entries? = some entries ∧
        ((Renderer.runHelper call (change name run)).runFrom state).2.root =
          .map (entries.insert key ((entries.get? key).getD (.integer 0))) := by
  have written : state.output ≠ state.output.write (name ++ " helper error: " ++ message) := by
    refine (Output.write_ne _ fun empty => ?_).symm
    have lengths := congrArg String.length empty
    simp [String.length_append] at lengths
  rw [change_runFrom, parts, RenderM.runFrom_run_bind, asks] at refused ⊢
  cases asked with
  | error fault => exact .inl ⟨rfl, nofun⟩
  | ok change =>
    simp only [Change.perform_runFrom] at refused ⊢
    cases found : state.root.entries? with
    | none => exact .inl ⟨rfl, fun _ _ => rfl⟩
    | some entries =>
      simp only [found] at refused ⊢
      rcases ends : change.outcome entries with halt | (fault | done)
      · rw [ends] at refused
        exact absurd refused written
      · obtain ⟨key, operation, operand, rfl, entry⟩ := Change.entry_of_failed ends
        refine .inr ⟨key, operation, operand, entries, rfl, rfl, ?_⟩
        rw [entry]
        rfl
      · rw [ends] at refused
        exact absurd refused written

/-- A change that has written why it is refused leaves the data as they are, unless it calculates
with a key that has no value. -/
theorem change_keepsRoot_iff (ordered : state.root.HasOrder) :
    ((Renderer.runHelper call (change name run)).runFrom state).2.root = state.root ↔
      ¬ CalculatesAfresh asked state.root := by
  rcases refused_cases parts asks refused with
    ⟨same, unreached⟩ | ⟨key, operation, operand, entries, isAsked, found, left⟩
  · refine iff_of_true same ?_
    rintro ⟨key, operation, operand, entries, isAsked, found, -⟩
    cases (unreached _ isAsked).symm.trans found
  · have isFresh : CalculatesAfresh asked state.root ↔ entries.get? key = none := by
      constructor
      · rintro ⟨_, _, _, _, same, isFound, isNone⟩
        cases isAsked.symm.trans same
        cases found.symm.trans isFound
        exact isNone
      · exact fun isNone => ⟨key, operation, operand, entries, isAsked, found, isNone⟩
    rw [left, isFresh]
    exact Value.map_insert_getD_eq_iff ordered found key (.integer 0)

end Refused

/-- A call of `set` or `unset` whose parameters are literals and paths, and which has written why it
is refused, leaves the data as they are, unless it calculates with a key that has no value. -/
theorem refused_change_keeps_root {name : String} {helper : Helper}
    (isChange : (name, helper) ∈ changes) {call : Call}
    (plain : ∀ body, ¬ Quoted call.list body) {state : RenderState}
    (ordered : state.root.HasOrder) {message : String}
    (refused : ((Renderer.runHelper call helper).runFrom state).2.output =
      state.output.write (name ++ " helper error: " ++ message)) :
    ((Renderer.runHelper call helper).runFrom state).2.root = state.root ↔
      ¬ (name = "set" ∧ CalculatesAfresh (setRequest call state.root) state.root) := by
  have finds (name : String) := Params.get?_runFrom plain name state
  simp only [changes, List.mem_cons, Prod.mk.injEq, List.not_mem_nil, or_false] at isChange
  rcases isChange with ⟨rfl, rfl⟩ | ⟨rfl, rfl⟩
  · rw [change_keepsRoot_iff (changeKeyValue_eq call) (requestSet_runFrom finds call.has) refused
      ordered]
    simp [setRequest]
  · rw [change_keepsRoot_iff (removeKey_eq call) (requestUnset_runFrom finds) refused ordered]
    refine iff_of_true ?_ (by simp)
    rintro ⟨key, operation, operand, entries, asked, -⟩
    unfold requestUnset at asked
    rw [ExceptT.run_bind] at asked
    rcases found : (requestedKey (m := Id) (call.given? state.root)).run with fault | key <;>
      · rw [found] at asked
        cases asked

/-- A call without bodies at the data, whose parameters are literals. -/
def literalCall (given : List (String × Literal)) : Call where
  list := given.map fun (name, literal) => ⟨⟨name, Inhabited.default⟩, .literal literal⟩
  context := []
  globals := .null
  render _ _ := pure ()
  main := none
  bodies := []
  filters := {}

/-- The parameters of a call with literals are no strings with tags. -/
theorem literalCall_plain (given : List (String × Literal)) (body : Body) :
    ¬ Quoted (literalCall given).list body := by
  rintro ⟨param, mem, isString⟩
  obtain ⟨entry, -, rfl⟩ := List.mem_map.mp mem
  cases isString

/-- A call of `set` that divides the value of `n` by zero. -/
def divideByZero : Call :=
  literalCall [("key", .string "n"), ("divide", .integer 0)]

/-- The state that dividing by zero leaves. -/
def dividedByZero (entries : Dict Value) : RenderState :=
  ((Renderer.runHelper divideByZero (change "set" changeKeyValue)).runFrom
    { root := .map entries }).2

/-- The value of a key stays as it is when dividing it by zero is refused. -/
theorem refused_change_keeps_root_divide :
    (dividedByZero [("n", .integer 7)]).output =
        ({} : Output).write ("set" ++ " helper error: " ++ "divide failed.") ∧
      (dividedByZero [("n", .integer 7)]).root = .map [("n", .integer 7)] := by
  have ordered : (Value.map [("n", .integer 7)]).HasOrder := List.pairwise_singleton ..
  have refused : (dividedByZero [("n", .integer 7)]).output =
      ({} : Output).write ("set" ++ " helper error: " ++ "divide failed.") := rfl
  have keeps := refused_change_keeps_root (.head _) (literalCall_plain _) ordered refused
  refine ⟨refused, keeps.mpr ?_⟩
  rintro ⟨-, key, operation, operand, entries, ⟨⟩, ⟨⟩, fresh⟩
  cases fresh

/-- A key that has no value has the value zero after dividing it by zero has been refused. -/
theorem refused_change_leaves_zero :
    (∀ body, ¬ Quoted divideByZero.list body) ∧
      (dividedByZero []).output =
        ({} : Output).write ("set" ++ " helper error: " ++ "divide failed.") ∧
      (dividedByZero []).root = .map [("n", .integer 0)] ∧
      (dividedByZero []).root ≠ .map [] := by
  have left : (dividedByZero []).root = .map [("n", .integer 0)] := rfl
  refine ⟨literalCall_plain _, rfl, left, ?_⟩
  rw [left]
  exact nofun

end Helper

end Dust
