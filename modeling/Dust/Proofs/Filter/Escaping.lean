import Dust.Proofs.Filter.Reading
import Dust.Proofs.Render.Run

/-!
# Automatic escaping

A reference escapes what it writes for HTML after its filters, unless they name `s` or `h`. So it
writes an inert text if they name neither. If they name `h`, what matters is what the filters after
the last `h` make of an inert text: `js` writes it as JSON, with quotes around it, and `jp` reads it
from there. The filters can be followed by the number of times that JSON has to be read until an
inert text is left. It has to be none in the end.
-/

namespace Dust

/-- A value is written as an inert text after JSON is read from it some times. -/
def Value.ReadsInert : Nat → Value → Prop
  | 0, value => IsInert value.display.toList
  | readings + 1, value => ReadsInert readings (Filter.ofJsonText value)

namespace Value.ReadsInert

/-- What is no text is inert however often JSON is read from it. -/
theorem of_noText {value : Value} (noText : value.text? = none) (readings : Nat) :
    ReadsInert readings value := by
  induction readings with
  | zero => exact display_isInert noText
  | succ readings induction =>
    cases value with
    | string => cases noText
    | _ => exact induction

/-- What is inert is still so after JSON is read from it. -/
theorem ofJsonText {value : Value} (inert : ReadsInert 0 value) :
    ReadsInert 0 (Filter.ofJsonText value) := by
  cases value with
  | string text =>
    exact of_noText (Filter.text?_ofJsonText (.of_not_mem (IsInert.quote_not_mem inert))) 0
  | _ => exact inert

/-- What is written as JSON has to be read once more. -/
theorem toJsonText {readings : Nat} {value : Value} (reads : ReadsInert readings value) :
    ReadsInert (readings + 1) (Filter.toJsonText value) := by
  change ReadsInert readings (Filter.ofJsonText (Filter.toJsonText value))
  cases value with
  | string text =>
    rw [Filter.ofJsonText_toJsonText]
    exact reads
  | _ => exact of_noText (Filter.text?_ofJsonText_toJsonText rfl) readings

end Value.ReadsInert

namespace Filter

/-- A filter for texts makes a text of what a value is written as, or leaves a value that is no text
alone. -/
theorem onText_cases (change : List Char → List Char) (value : Value) :
    onText change value = .string (String.ofList (change value.display.toList)) ∨
      onText change value = value ∧ value.text? = none := by
  cases value with
  | null | list | map => exact .inr ⟨rfl, rfl⟩
  | _ => exact .inl rfl

/-- What is escaped for HTML is inert. -/
theorem onText_escapeHtml_readsInert (value : Value) : (onText escapeHtml value).ReadsInert 0 := by
  rcases onText_cases escapeHtml value with text | ⟨same, noText⟩
  · rw [text, Value.ReadsInert, Value.display, String.toList_ofList]
    exact escapeHtml_isInert _
  · rw [same]
    exact .of_noText noText 0

/-- What is inert stays so with a filter for texts that keeps inert texts. Otherwise the filter
makes a text from which no text is read. -/
theorem onText_readsInert {change : List Char → List Char}
    (keeps : ∀ text, IsInert text → IsInert (change text))
    (breaks : ∀ text, Json.BeginsNoString (change text)) {readings : Nat} {value : Value}
    (reads : value.ReadsInert readings) : (onText change value).ReadsInert (min readings 1) := by
  rcases onText_cases change value with text | ⟨same, noText⟩
  · cases readings with
    | zero =>
      rw [text, Nat.zero_min, Value.ReadsInert, Value.display, String.toList_ofList]
      exact keeps _ reads
    | succ readings =>
      rw [text, Nat.min_eq_right (Nat.succ_pos readings)]
      refine Value.ReadsInert.of_noText (text?_ofJsonText ?_) 0
      rw [String.toList_ofList]
      exact breaks _
  · rw [same]
    exact .of_noText noText _

/-- How often JSON has to be read after a filter until an inert text is left. -/
def readingsAfter (readings : Nat) : String → Nat
  | "h" => 0
  | "js" => readings + 1
  | "jp" => readings - 1
  | "j" | "u" | "uc" => min readings 1
  | _ => readings

/-- A filter does to the number of readings what is expected of it. -/
theorem readsInert_readingsAfter {name : String} {filter : Filter}
    (known : builtins.get? name = some filter) {readings : Nat} {value : Value}
    (reads : value.ReadsInert readings) :
    (filter value).ReadsInert (readingsAfter readings name) := by
  have percent {kept : List Char} (noQuote : '"' ∉ kept) :=
    @onText_readsInert (fun text => text.flatMap (percentCharacter kept))
      (fun _ inert => percent_isInert kept inert)
      (fun text => .of_not_mem (quote_not_mem_percent noQuote text)) readings value reads
  have listed := Dict.mem_ofList (Dict.mem_of_get? known)
  simp only [List.mem_cons, Prod.mk.injEq, List.not_mem_nil, or_false] at listed
  rcases listed with ⟨rfl, rfl⟩ | ⟨rfl, rfl⟩ | ⟨rfl, rfl⟩ | ⟨rfl, rfl⟩ | ⟨rfl, rfl⟩ | ⟨rfl, rfl⟩ |
    ⟨rfl, rfl⟩
  · exact reads
  · exact onText_escapeHtml_readsInert value
  · exact onText_readsInert (fun _ => escapeScript_isInert) escapeScript_beginsNoString reads
  · exact percent (by decide)
  · exact percent (by decide)
  · exact reads.toJsonText
  · cases readings with
    | zero => exact reads.ofJsonText
    | succ readings => exact reads

/-- How often JSON has to be read after the filters of a chain until an inert text is left. -/
def readings (chain : List String) : Nat :=
  chain.foldl readingsAfter 0

end Filter

namespace FilterSet

variable {chain : List String}

/-- A chain in which no filter keeps the automatic filters away applies its first filter. -/
theorem applyChain_cons {name : String} {filter : Filter} (escaping : name ≠ Filter.suppressing)
    (known : Filter.builtins.get? name = some filter) (value : Value) :
    applyChain {} (name :: chain) value = applyChain {} chain (filter value) := by
  simp only [applyChain, List.foldl_cons, if_neg escaping, known]

/-- The filters of a chain do to the number of readings what is expected of them. -/
theorem applyChain_readsInert (builtin : ∀ name ∈ chain, Filter.builtins.has name = true)
    (escaping : ∀ name ∈ chain, name ≠ Filter.suppressing) {readings : Nat} {value : Value}
    (reads : value.ReadsInert readings) :
    (applyChain {} chain value).ReadsInert (chain.foldl Filter.readingsAfter readings) := by
  induction chain generalizing value readings with
  | nil => exact reads
  | cons name rest induction =>
    obtain ⟨filter, known⟩ := Option.isSome_iff_exists.mp (builtin name List.mem_cons_self)
    rw [applyChain_cons (escaping name List.mem_cons_self) known, List.foldl_cons]
    exact induction (fun other mem => builtin other (List.mem_cons_of_mem _ mem))
      (fun other mem => escaping other (List.mem_cons_of_mem _ mem))
      (Filter.readsInert_readingsAfter known reads)

/-- The last `h` of a chain decides about the number of readings, whatever the value is before. -/
theorem applyChain_readsInert_of_mem (builtin : ∀ name ∈ chain, Filter.builtins.has name = true)
    (escaping : ∀ name ∈ chain, name ≠ Filter.suppressing) (named : "h" ∈ chain) (value : Value)
    (readings : Nat) :
    (applyChain {} chain value).ReadsInert (chain.foldl Filter.readingsAfter readings) := by
  induction chain generalizing value readings with
  | nil => cases named
  | cons name rest induction =>
    obtain ⟨filter, known⟩ := Option.isSome_iff_exists.mp (builtin name List.mem_cons_self)
    have restBuiltin : ∀ other ∈ rest, Filter.builtins.has other = true :=
      fun other mem => builtin other (List.mem_cons_of_mem _ mem)
    have restEscaping : ∀ other ∈ rest, other ≠ Filter.suppressing :=
      fun other mem => escaping other (List.mem_cons_of_mem _ mem)
    rw [applyChain_cons (escaping name List.mem_cons_self) known, List.foldl_cons]
    by_cases later : "h" ∈ rest
    · exact induction restBuiltin restEscaping later (filter value) _
    · obtain rfl : "h" = name := (List.mem_cons.mp named).resolve_right later
      obtain rfl : Filter.onText Filter.escapeHtml = filter := Option.some.inj known
      exact applyChain_readsInert restBuiltin restEscaping
        (Filter.onText_escapeHtml_readsInert value)

/-- The automatic filters escape what a chain without `h` leaves. -/
theorem applyAutomatic_of_not_mem (escaping : ∀ name ∈ chain, name ≠ Filter.suppressing)
    (unnamed : "h" ∉ chain) (value : Value) :
    applyAutomatic {} chain value = Filter.onText Filter.escapeHtml value := by
  have noSuppressing : Filter.suppressing ∉ chain := fun mem => escaping _ mem rfl
  unfold applyAutomatic
  simp only [List.contains_eq_mem, noSuppressing, decide_false, Bool.false_eq_true, if_false,
    List.foldl_cons, unnamed, List.foldl_nil]
  rfl

/-- The automatic filters leave what a chain with `h` makes. -/
theorem applyAutomatic_of_mem (named : "h" ∈ chain) (value : Value) :
    applyAutomatic {} chain value = value := by
  unfold applyAutomatic
  simp [named]

/-- A chain of filters leaves an inert text unless it names `s` or leaves JSON after its last `h`.
-/
theorem apply_isInert (builtin : ∀ name ∈ chain, Filter.builtins.has name = true)
    (escaping : ∀ name ∈ chain, name ≠ Filter.suppressing)
    (noJson : "h" ∈ chain → Filter.readings chain = 0) (value : Value) :
    IsInert (apply {} chain value).display.toList := by
  unfold apply
  by_cases named : "h" ∈ chain
  · rw [applyAutomatic_of_mem named]
    have reads := applyChain_readsInert_of_mem builtin escaping named value 0
    rw [← Filter.readings, noJson named] at reads
    exact reads
  · rw [applyAutomatic_of_not_mem escaping named]
    exact Filter.onText_escapeHtml_readsInert _

end FilterSet

namespace Renderer

/-- A reference whose filters are known writes its value as the filters leave it, if it has one. -/
theorem runFrom_renderReference (renderer : Renderer) (origin : Origin) (context : Context)
    (path : Path) {filters : List Identifier} (known : renderer.filters.unknown? filters = none)
    (state : RenderState) :
    (renderer.renderReference origin context path filters).runFrom state =
      match context.get? ⟨state.root, renderer.globals⟩ path with
      | none => (.ok (), state)
      | some value => (.ok (), { state with
          output := state.output.write
            (renderer.filters.apply (filters.map Identifier.name) value).display }) := by
  rw [runFrom_reference]
  cases context.get? ⟨state.root, renderer.globals⟩ path with
  | none => simp [referenceOutput]
  | some value =>
    simp only [referenceOutput, known, Option.map_none]
    rw [← Output.write_eq_append]

/-- A reference writes an inert text, whatever its value is, unless its filters name `s` or leave
JSON after the last `h`. -/
theorem renderReference_writes_inert (renderer : Renderer) (standard : renderer.filters = {})
    (origin : Origin) (context : Context) (path : Path) {filters : List Identifier}
    (builtin : ∀ filter ∈ filters, Filter.builtins.has filter.name = true)
    (escaping : ∀ filter ∈ filters, filter.name ≠ Filter.suppressing)
    (noJson : "h" ∈ filters.map Identifier.name →
      Filter.readings (filters.map Identifier.name) = 0) (state : RenderState) :
    ∃ written : String, IsInert written.toList ∧
      (renderer.renderReference origin context path filters).runFrom state =
        (.ok (), { state with output := state.output.write written }) := by
  have known : renderer.filters.unknown? filters = none := by
    rw [standard]
    refine List.find?_eq_none.mpr fun filter mem => ?_
    simp [builtin filter mem]
  rw [runFrom_renderReference renderer origin context path known, standard]
  cases context.get? ⟨state.root, renderer.globals⟩ path with
  | none => exact ⟨"", .nil, by simp [Output.write]⟩
  | some value =>
    refine ⟨_, FilterSet.apply_isInert ?_ ?_ noJson value, rfl⟩
    · exact List.forall_mem_map.mpr builtin
    · exact List.forall_mem_map.mpr escaping

end Renderer

/-- A renderer without templates. -/
def standardRenderer : Renderer where
  helpers := Helper.builtins
  filters := {}
  maxDepth := 64
  sources := { files := ⟨.directory [], []⟩ }
  globals := .null

/-- A template without a body. -/
def emptyOrigin : Origin where
  template := { source := "", body := [], blocks := [], path := none }
  depth := 0

/-- A state in which `x` is the letter `a` in quotes. -/
def quotedLetter : RenderState where
  root := .map [("x", .string "\"a\"")]

/-- A reference to `x` with some filters. -/
def referenceWith (filters : List String) : RenderM Unit :=
  standardRenderer.renderReference emptyOrigin [] ⟨.relative, [.name "x"], default⟩
    (filters.map fun name => ⟨name, default⟩)

/-- JSON that is read before the end leaves no quotes. -/
theorem Renderer.renderReference_writes_inert_decoded :
    (∀ name ∈ ["h", "js", "jp"], Filter.builtins.has name = true ∧ name ≠ Filter.suppressing) ∧
      Filter.readings ["h", "js", "jp"] = 0 ∧
      ∃ written : String, IsInert written.toList ∧
        (referenceWith ["h", "js", "jp"]).runFrom quotedLetter =
          (.ok (), { quotedLetter with output := quotedLetter.output.write written }) :=
  ⟨by decide, rfl, Renderer.renderReference_writes_inert standardRenderer rfl emptyOrigin [] _
    (by decide) (by decide) (fun _ => rfl) quotedLetter⟩

/-- JSON that is written after `h` has quotes, although no filter is `s`. -/
theorem Renderer.renderReference_writes_quotes :
    (∀ name ∈ ["h", "js"], Filter.builtins.has name = true ∧ name ≠ Filter.suppressing) ∧
      ¬ ∃ written : String, IsInert written.toList ∧
        (referenceWith ["h", "js"]).runFrom quotedLetter =
          (.ok (), { quotedLetter with output := quotedLetter.output.write written }) := by
  refine ⟨by decide, fun ⟨written, inert, run⟩ => ?_⟩
  have writes : (referenceWith ["h", "js"]).runFrom quotedLetter =
      (.ok (), { quotedLetter with
        output := quotedLetter.output.write "\"&quot;a&quot;\"" }) := rfl
  rw [writes] at run
  have same := congrArg (fun run => run.2.output.text) run
  obtain rfl : "\"&quot;a&quot;\"" = written := by simpa [Output.write] using same
  exact absurd (inert '"' (by decide)) (by decide)

end Dust
