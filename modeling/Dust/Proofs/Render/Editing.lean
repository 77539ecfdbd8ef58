import Dust.Proofs.Render.Append
import Dust.Proofs.Render.Watching

/-!
# Edits of the data

The data of a render change only by edits, one key at a time, and whatever reads the data finds what
the edits so far have made of them. The frames of a context hold copies of parts of the data as they
have been before. So an edit shows in every context of the render, as long as no frame holds the key
itself.
-/

namespace Dust

/-! ### One edit -/

namespace Value

variable {root : Value} {key other : String} (entry : Option Value)

/-- Data without entries that can be changed are not edited. -/
theorem edit_of_fixed (fixed : root.entries? = none) (key : String) :
    root.edit key entry = root := by
  rw [edit, fixed]

/-- The entries of edited data. -/
theorem edit_of_entries {entries : Dict Value} (found : root.entries? = some entries)
    (key : String) : root.edit key entry = .map (entries.put key entry) := by
  rw [edit, found]

/-- Looking for a key in data with entries is looking for it in the entries. -/
theorem get?_of_entries {entries : Dict Value} (found : root.entries? = some entries)
    (key : String) : root.get? key = entries.get? key := by
  cases root with
  | null =>
    cases found
    rfl
  | map known =>
    cases found
    rfl
  | _ => cases found

/-- An edit leaves all other keys. -/
theorem get?_edit_of_ne (differ : other ≠ key) :
    (root.edit key entry).get? other = root.get? other := by
  cases found : root.entries? with
  | none => rw [edit_of_fixed entry found]
  | some entries =>
    rw [edit_of_entries entry found, get?_of_entries found]
    exact entries.get?_put_of_ne entry differ

/-- After an edit the key has the entry that it has been given. -/
theorem get?_edit_self (ordered : root.HasOrder) (changeable : root.entries? ≠ none)
    (key : String) : (root.edit key entry).get? key = entry := by
  obtain ⟨entries, found⟩ := Option.ne_none_iff_exists'.mp changeable
  rw [edit_of_entries entry found]
  exact (ordered.sorted found).get?_put_self key entry

/-- Edited data stay in order. -/
theorem HasOrder.edit (ordered : root.HasOrder) (key : String) : (root.edit key entry).HasOrder := by
  cases found : root.entries? with
  | none => rwa [edit_of_fixed entry found]
  | some entries =>
    rw [edit_of_entries entry found]
    exact (ordered.sorted found).put key entry

end Value

/-! ### The edits of a render -/

/-- The data after the first events, as the edits among them have made them. -/
def dataAfter (start : Value) (events : List Event) (n : Nat) : Value :=
  dataLedger.replay start (events.take n)

/-- One more event makes of the data what it makes of those before it. -/
theorem dataAfter_succ {start : Value} {events : List Event} {n : Nat} {event : Event}
    (isEvent : events[n]? = some event) :
    dataAfter start events (n + 1) = dataLedger.next (dataAfter start events n) event := by
  rw [dataAfter, List.take_add_one, isEvent]
  exact List.foldl_append

/-- Behind the last event there is nothing more. -/
theorem dataAfter_succ_of_none {start : Value} {events : List Event} {n : Nat}
    (isEnd : events[n]? = none) : dataAfter start events (n + 1) = dataAfter start events n := by
  rw [dataAfter, List.take_add_one, isEnd]
  exact List.foldl_append

/-- What holds of the data in the beginning, and is kept by edits, holds after all events. -/
theorem dataAfter_induction (holds : Value → Prop) {start : Value} (starts : holds start)
    (events : List Event) (edits : ∀ root key entry, holds root → holds (root.edit key entry))
    (n : Nat) : holds (dataAfter start events n) := by
  induction n with
  | zero => exact starts
  | succ n induction =>
    cases isEvent : events[n]? with
    | none => rwa [dataAfter_succ_of_none isEvent]
    | some event =>
      rw [dataAfter_succ isEvent]
      cases event with
      | edited key entry => exact edits _ _ _ induction
      | _ => exact induction

/-- What holds of the data at some event, and is kept by all events until another one, holds there.
-/
theorem dataAfter_until (holds : Value → Prop) {start : Value} {events : List Event} {first : Nat}
    (starts : holds (dataAfter start events first)) {n : Nat} (later : first ≤ n)
    (keeps : ∀ i, first ≤ i → i < n → ∀ event, events[i]? = some event →
      ∀ root, holds root → holds (dataLedger.next root event)) :
    holds (dataAfter start events n) := by
  induction later with
  | refl => exact starts
  | @step n later induction =>
    have before := induction fun i isAfter isBefore => keeps i isAfter (Nat.lt_succ_of_lt isBefore)
    cases isEvent : events[n]? with
    | none => rwa [dataAfter_succ_of_none isEvent]
    | some event =>
      rw [dataAfter_succ isEvent]
      exact keeps n later (Nat.lt_succ_self n) event isEvent _ before

/-- Only edits make something of the data. -/
theorem dataLedger_next_of_unedited {event : Event} (root : Value)
    (unedited : ∀ key entry, event ≠ .edited key entry) : dataLedger.next root event = root := by
  cases event with
  | edited key entry => exact absurd rfl (unedited key entry)
  | _ => rfl

/-- Only edits of a key make something of its value. -/
theorem get?_dataLedger_next {event : Event} (root : Value) {key : String}
    (unedited : ∀ entry, event ≠ .edited key entry) :
    (dataLedger.next root event).get? key = root.get? key := by
  cases event with
  | edited other entry =>
    have differ : key ≠ other := by
      rintro rfl
      exact unedited entry rfl
    exact Value.get?_edit_of_ne entry differ
  | _ => rfl

/-- A frame does not hold a key. -/
def Frame.Passes (key : String) (frame : Frame) : Prop :=
  ∀ value, frame.value? = some value → value.get? key = none

/-- A key that no frame holds is looked for in the data and in the globals. -/
theorem Context.get?_of_passes {context : Context} {key : String}
    (passes : ∀ frame ∈ context, frame.Passes key) (ordinary : context.special? key = none)
    (scope : Scope) (span : Span) :
    context.get? scope ⟨.relative, [.name key], span⟩ =
      (scope.root.get? key).or (scope.globals.get? key) := by
  have noFrame : (context.findSome? fun frame => frame.value?.bind (·.get? key)) = none := by
    refine List.findSome?_eq_none_iff.mpr fun frame mem => ?_
    cases isValue : frame.value? with
    | none => rfl
    | some value => exact passes frame mem value isValue
  simp only [get?, toStep?, find?, search?, followKeys?, ordinary, noFrame, Value.follow?,
    Option.none_or, Option.bind_eq_bind, Option.bind_some, Option.bind_fun_some]

/-- What the events of a render tell about its data. -/
structure DataHistory (globals start finish : Value) (events : List Event) : Prop where
  /-- Whoever looks at the data finds what the edits before have made of them. -/
  reached : ∀ n root flags, events[n]? = some (.reached root flags) →
    root = dataAfter start events n
  /-- In the end the data are what all edits have made of them. -/
  finish_eq : finish = dataAfter start events events.length
  /-- As long as there are no edits the data are what they were in the beginning. -/
  unedited : ∀ n, (∀ i < n, ∀ key entry, events[i]? ≠ some (.edited key entry)) →
    dataAfter start events n = start
  /-- Data that are neither nothing nor a map never change. -/
  fixed : start.entries? = none → ∀ n, dataAfter start events n = start
  /-- A map stays a map. -/
  stays_map : ∀ entries, start = .map entries → ∀ n, ∃ later, dataAfter start events n = .map later
  /-- An edit leaves all other keys as they were. -/
  others : ∀ n key entry, events[n]? = some (.edited key entry) → ∀ other, other ≠ key →
    (dataAfter start events (n + 1)).get? other = (dataAfter start events n).get? other
  /-- Until the next edit of the key, it has the entry in every context that has no frame with the
  key, and without an entry it has the value that it has in the globals. -/
  found : ∀ n key entry, events[n]? = some (.edited key entry) →
    ∀ m, n < m → (∀ i, n < i → i < m → ∀ next, events[i]? ≠ some (.edited key next)) →
      ∀ context : Context, (∀ frame ∈ context, frame.Passes key) → context.special? key = none →
        ∀ span, context.get? ⟨dataAfter start events m, globals⟩ ⟨.relative, [.name key], span⟩ =
          entry.or (globals.get? key)

/-- Where events account for data in order, they tell their history. -/
theorem DataHistory.of_follows {start finish : Value} {events : List Event}
    (ordered : start.HasOrder) (follows : dataLedger.Follows start events finish)
    (globals : Value) : DataHistory globals start finish events := by
  constructor
  case reached => exact fun n root flags isEvent => follows.fits_getElem? isEvent
  case finish_eq =>
    rw [dataAfter, List.take_length]
    exact follows.finish_eq
  case unedited =>
    intro n unedited
    refine dataAfter_until (· = start) rfl (Nat.zero_le n) ?_
    rintro i - isBefore event isEvent root rfl
    refine dataLedger_next_of_unedited root ?_
    rintro key entry rfl
    exact unedited i isBefore key entry isEvent
  case fixed =>
    intro fixed
    refine dataAfter_induction (· = start) rfl events ?_
    rintro root key entry rfl
    exact Value.edit_of_fixed entry fixed key
  case stays_map =>
    rintro entries rfl
    refine dataAfter_induction (∃ later, · = .map later) ⟨entries, rfl⟩ events ?_
    rintro root key entry ⟨known, rfl⟩
    exact ⟨Dict.put known key entry, rfl⟩
  case others =>
    intro n key entry isEvent other differ
    rw [dataAfter_succ isEvent]
    exact Value.get?_edit_of_ne entry differ
  case found =>
    intro n key entry isEvent m later unedited context passes ordinary span
    rw [Context.get?_of_passes passes ordinary]
    congr 1
    have changeable : (dataAfter start events n).entries? ≠ none := follows.fits_getElem? isEvent
    have inOrder : (dataAfter start events n).HasOrder :=
      dataAfter_induction Value.HasOrder ordered events (fun _ key entry order =>
        Value.HasOrder.edit entry order key) n
    have edited : (dataAfter start events (n + 1)).get? key = entry := by
      rw [dataAfter_succ isEvent]
      exact Value.get?_edit_self entry inOrder changeable key
    refine dataAfter_until (fun root => root.get? key = entry) edited later ?_
    intro i isAfter isBefore event isEvent root same
    rw [← same]
    refine get?_dataLedger_next root ?_
    rintro next rfl
    exact unedited i isAfter isBefore next isEvent

/-- The data of a render with helpers that are always there change only by the edits that `set` and
`unset` make, and an edit shows in every context of the render that does not hold its key. -/
theorem Renderer.data_change_by_edits {renderer : Renderer}
    (builtin : ∀ name helper, renderer.helpers.get? name = some helper →
      (name, helper) ∈ Helper.builtins)
    (bound : Nat) (origin : Origin) (context : Context) (body : Body) {state : RenderState}
    (ordered : state.root.HasOrder) :
    let render := renderer.renderBody bound origin context body
    let watched := renderer.watchedBody bound origin context body
    render.IsWatched watched state ∧
      DataHistory renderer.globals state.root (render.runFrom state).2.root
        (watched.eventsFrom state) := by
  intro render watched
  obtain ⟨isWatched, accounts⟩ :=
    (renderer.renderBody_watches builtin bound origin context body).accounts state
  exact ⟨isWatched, .of_follows ordered accounts.data renderer.globals⟩

/-- The edit that an event tells, with the text that is written of the entry. -/
def Event.edit? : Event → Option (String × Option String)
  | .edited key entry => some (key, entry.map Value.display)
  | _ => none

/-- A call of a helper without a body. -/
def changePart (name : String) (list : List (String × Literal)) : Part :=
  .element (.helper ⟨name, default⟩)
    (list.map fun (name, literal) => ⟨⟨name, default⟩, .literal literal⟩) none [] default

/-- A key is set and counted up, then removed, and looked up each time. -/
def editingBody : Body :=
  let look : Part := .reference ⟨.relative, [.name "n"], default⟩ [] default
  [changePart "set" [("key", .string "n"), ("value", .integer 1)], look,
    changePart "set" [("key", .string "n"), ("add", .integer 2)], look,
    changePart "unset" [("key", .string "n")], look]

/-- A renderer whose globals have a value for the key. -/
def editingRenderer : Renderer :=
  { Renderer.builtinRenderer with globals := .map [("n", .string "global")] }

/-- The data before. -/
def editingState : RenderState where
  root := .map [("m", .bool true)]

/-- The key has the values that it has been given, and in the end that of the globals. -/
theorem Renderer.data_change_by_edits_counting :
    let origin : Origin := ⟨⟨"", editingBody, [], none⟩, 0⟩
    let later := ((editingRenderer.renderBody 2 origin [] editingBody).runFrom editingState).2
    let events := (editingRenderer.watchedBody 2 origin [] editingBody).eventsFrom editingState
    DataHistory editingRenderer.globals editingState.root later.root events ∧
      events.filterMap Event.edit? = [("n", some "1"), ("n", some "3"), ("n", none)] ∧
      later.output.text = "13global" := by
  intro origin later events
  have builtin (name : String) (helper : Helper)
      (found : editingRenderer.helpers.get? name = some helper) :
      (name, helper) ∈ Helper.builtins := Dict.mem_of_get? found
  have ordered : editingState.root.HasOrder := List.pairwise_singleton ..
  have changes := Renderer.data_change_by_edits builtin 2 origin [] editingBody ordered
  refine ⟨changes.2, ?_, ?_⟩
  · decide +kernel
  · decide +kernel

end Dust
