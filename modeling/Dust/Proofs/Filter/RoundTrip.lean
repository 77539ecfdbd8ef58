import Dust.Helper.Builtin
import Dust.Proofs.Render.Run
import Dust.Proofs.Value.RoundTrip

/-!
# Values through JSON and back

A value is not changed by being written as JSON and read again, whichever way it is written: in one
line by the filter `js`, or over several lines by the helper `contextDump`.
-/

namespace Dust

/-- A value without doubles is read from its text in one line. -/
theorem Filter.ofJsonText_jsonText {value : Value} (ordered : value.IsOrdered)
    (floatless : value.IsFloatless) (shallow : value.depth ≤ Json.maxDepth) :
    ofJsonText (.string value.jsonText) = value := by
  rw [ofJsonText, Value.ofJsonText?_jsonText, Value.ofJson?_toJson value ordered floatless shallow]
  rfl

/-- A value without doubles is read from its text over several lines. -/
theorem Filter.ofJsonText_indentedJsonText {value : Value} (ordered : value.IsOrdered)
    (floatless : value.IsFloatless) (shallow : value.depth ≤ Json.maxDepth) :
    ofJsonText (.string value.indentedJsonText) = value := by
  rw [ofJsonText, Value.ofJsonText?_indentedJsonText,
    Value.ofJson?_toJson value ordered floatless shallow]
  rfl

/-- Unless it is asked for the whole context or told to write to the console, the helper writes the
current value over several lines. The value is taken before it is asked where to write. -/
theorem Helper.contextDump_writes {call : Call} {state middle later : RenderState}
    {extent goal : Option String}
    (asksExtent : (call.getText? "key").runFrom state = (.ok extent, middle))
    (notFull : extent ≠ some "full")
    (asksGoal : (call.getText? "to").runFrom middle = (.ok goal, later))
    (notConsole : goal ≠ some "console") :
    (Renderer.runHelper call Helper.contextDump).runFrom state =
      (.ok (.ok ()),
        { later with
          output := later.output.write
            (call.context.current ⟨middle.root, call.globals⟩).indentedJsonText }) := by
  have scope : call.scope.runFrom middle = (.ok ⟨middle.root, call.globals⟩, middle) := rfl
  unfold Helper.contextDump Renderer.runHelper
  simp only
  rw [RenderM.runFrom_liftBind, asksExtent]
  simp only
  rw [RenderM.runFrom_liftBind, scope]
  simp only
  rw [RenderM.runFrom_liftBind, asksGoal]
  simp only [if_neg notFull, if_pos notConsole]
  rw [RenderM.runFrom_lift, RenderM.runFrom_write, Output.write_eq_append]

/-- A value without doubles whose lists and maps are nested at most 127 deep is the same after the
filters `js` and `jp`, and it is read from what the helper `contextDump` writes where it is the
current value. -/
theorem Value.survives_json {value : Value} (ordered : value.IsOrdered)
    (floatless : value.IsFloatless) (shallow : value.depth ≤ 127) :
    ({} : FilterSet).applyChain ["js", "jp"] value = value ∧
      ∀ (call : Call) (state middle later : RenderState) (extent goal : Option String),
        (call.getText? "key").runFrom state = (.ok extent, middle) → extent ≠ some "full" →
        call.context.current ⟨middle.root, call.globals⟩ = value →
        (call.getText? "to").runFrom middle = (.ok goal, later) → goal ≠ some "console" →
        ∃ dump,
          (Renderer.runHelper call Helper.contextDump).runFrom state =
            (.ok (.ok ()), { later with output := later.output.write dump }) ∧
          Filter.ofJsonText (.string dump) = value := by
  constructor
  · have chain : ({} : FilterSet).applyChain ["js", "jp"] value =
        Filter.ofJsonText (Filter.toJsonText value) := rfl
    rw [chain, Filter.toJsonText]
    exact Filter.ofJsonText_jsonText ordered floatless shallow
  · intro call state middle later extent goal asksExtent notFull isCurrent asksGoal notConsole
    refine ⟨value.indentedJsonText, ?_, ?_⟩
    · rw [Helper.contextDump_writes asksExtent notFull asksGoal notConsole, isCurrent]
    · exact Filter.ofJsonText_indentedJsonText ordered floatless shallow

/-- A map with keys and texts that are written with escapes. -/
def escapedEntries : Value :=
  .map
    [("", .null),
      ("a\"b", .list [.bool true, .integer (-7), .list []]),
      ("line\n\t\\", .map [("\x01", .string "\x1f\x7f"), ("é", .string "日本 😀 \\u0041")])]

/-- A call of `contextDump` without parameters at a value. -/
def dumpOf (value : Value) : Call where
  list := []
  context := [.blocks [], .value value none]
  globals := .null
  render _ _ := pure ()
  main := none
  bodies := []
  filters := {}

/-- Quotes, backslashes, control characters and characters beyond ASCII come back, in keys and in
texts. -/
theorem Value.survives_json_escaped :
    ({} : FilterSet).applyChain ["js", "jp"] escapedEntries = escapedEntries ∧
      ∃ dump,
        (Renderer.runHelper (dumpOf escapedEntries) Helper.contextDump).runFrom {} =
          (.ok (.ok ()), { output := { text := dump } }) ∧
        Filter.ofJsonText (.string dump) = escapedEntries := by
  have ordered : escapedEntries.IsOrdered := by
    simp only [IsOrdered, escapedEntries, Throughout, ThroughoutItems, ThroughoutEntries, HasOrder,
      and_true, true_and]
    decide
  have floatless : escapedEntries.IsFloatless := by
    simp [IsFloatless, escapedEntries, Throughout, ThroughoutItems, ThroughoutEntries, IsNoFloat]
  have survives := Value.survives_json ordered floatless (by decide)
  refine ⟨survives.1, ?_⟩
  obtain ⟨dump, writes, reads⟩ := survives.2 (dumpOf escapedEntries) {} {} {} none none rfl
    (by decide) rfl rfl (by decide)
  have written : (({} : RenderState).output.write dump) = { text := dump } := by
    simp [Output.write]
  exact ⟨dump, by rw [writes, written], reads⟩

end Dust
