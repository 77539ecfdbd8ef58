import Dust.Helper.Builtin
import Dust.Proofs.Files.Naming
import Dust.Proofs.Render.Run
import Dust.Proofs.Syntax.Lexing

/-!
# Keys of calculations

The key of a calculation is the value of a path, or it is named by a string. The names between the
dots of the string are looked up one in the other, just as the keys of the path with this text are.
Only texts that spell a double are not looked up. Of the texts of paths these are the names of
infinity and of what is not a number, so a value with such a name is found by a path alone.
-/

namespace Dust

/-! ## Paths of names -/

/-- The path that begins with a name and goes on with others. -/
def Path.ofNames (first : String) (rest : List String) (span : Span) : Path :=
  ⟨.relative, .name first :: rest.map Key.name, span⟩

/-- There is no dot in a word. -/
theorem dot_notMem_of_isWord {name : String} (word : isWord name = true) : '.' ∉ name.toList := by
  obtain ⟨first, rest, letters, begins, all⟩ := isWord_eq_cons word
  rw [letters, List.mem_cons, not_or]
  refine ⟨(ne_of_isWordStart begins (by decide)).symm, fun mem => ?_⟩
  have part := all '.' mem
  have other : isWordPart '.' = false := by decide
  rw [other] at part
  cases part

/-- The text of names behind dots is split into the names. -/
theorem Path.splitAt_writtenKeys {names : List String} (words : ∀ name ∈ names, isWord name = true) :
    Text.splitAt '.' (Path.writtenKeys (names.map Key.name)) = [] :: names.map String.toList := by
  induction names with
  | nil => rfl
  | cons name rest induction =>
    have later := induction fun other mem => words other (List.mem_cons_of_mem _ mem)
    have apart := dot_notMem_of_isWord (words name List.mem_cons_self)
    have written : Path.writtenKeys ((name :: rest).map Key.name) =
        '.' :: (name.toList ++ Path.writtenKeys (rest.map Key.name)) := rfl
    rw [written, Text.splitAt, if_pos rfl, Text.splitAt_append apart later, List.append_nil,
      List.map_cons]

/-- The text of a path of names is split into the names. -/
theorem Path.splitAt_written {first : String} {rest : List String} {span : Span}
    (words : ∀ name ∈ first :: rest, isWord name = true) :
    Text.splitAt '.' (Path.ofNames first rest span).written =
      first.toList :: rest.map String.toList := by
  have apart := dot_notMem_of_isWord (words first List.mem_cons_self)
  have later := Path.splitAt_writtenKeys fun name mem => words name (List.mem_cons_of_mem _ mem)
  rw [ofNames, written, Text.splitAt_append apart later, List.append_nil]

namespace Context

variable (context : Context) (scope : Scope)

/-- Names lead from a value to where they lead one after the other. -/
theorem followKeys?_names (value : Value) (names : List String) :
    context.followKeys? scope value (names.map Key.name) = names.foldlM Value.get? value := by
  induction names generalizing value with
  | nil => rfl
  | cons name rest induction =>
    simp only [List.map_cons, followKeys?, toStep?, List.foldlM_cons, induction]
    rfl

/-- The text of a path of names leads to the value of the path. -/
theorem getDotted?_written {first : String} {rest : List String} {span : Span}
    (words : ∀ name ∈ first :: rest, isWord name = true) :
    context.getDotted? scope (String.ofList (Path.ofNames first rest span).written) =
      context.get? scope (Path.ofNames first rest span) := by
  have same (names : List String) : (names.map String.toList).map String.ofList = names := by
    simp [Function.comp_def]
  rw [getDotted?, String.toList_ofList, Path.splitAt_written words, List.map_cons,
    String.ofList_toList, same, Path.ofNames]
  simp only [get?, toStep?, followKeys?_names]
  rfl

end Context

/-! ## Names of values -/

/-- Whether a text is a name of infinity or of what is not a number, in any case. -/
def Number.isDoubleName (text : List Char) : Bool :=
  ["nan", "inf", "infinity"].contains (String.ofList (text.map Char.toLower))

/-- A text that begins like a word spells a double only if it is the name of one. -/
theorem Number.readFloat?_eq_none {first : Char} {rest : List Char}
    (begins : isWordStart first = true)
    (other : Number.isDoubleName (first :: rest) = false) :
    Number.readFloat? (first :: rest) = none := by
  have differs (mark : Char) (never : isWordStart mark = false) : first ≠ mark :=
    ne_of_isWordStart begins never
  have unsigned : Number.splitSign (first :: rest) = (false, first :: rest) := by
    unfold Number.splitSign
    split
    · rename_i same
      cases same
      exact absurd rfl (differs '+' (by decide))
    · rename_i same
      cases same
      exact absurd rfl (differs '-' (by decide))
    · rfl
  have digit := isDigit_eq_false_of_isWordStart begins
  have noDecimal : Number.readDecimal? (first :: rest) = none := by
    have whole : (first :: rest).takeWhile Char.isDigit = [] := by simp [digit]
    have behind : (first :: rest).dropWhile Char.isDigit = first :: rest := by simp [digit]
    unfold Number.readDecimal?
    simp only [whole, behind]
    split
    · rename_i same
      cases same
      exact absurd rfl (differs '.' (by decide))
    · rfl
  simp only [Number.isDoubleName, List.contains_cons, List.contains_nil, Bool.or_false,
    Bool.or_eq_false_iff, beq_eq_false_iff_ne] at other
  unfold Number.readFloat?
  simp only [unsigned]
  split
  · exact absurd ‹_› other.1
  · exact absurd ‹_› other.2.1
  · exact absurd ‹_› other.2.2
  · rw [noDecimal]
    rfl

/-- The text of a path of names can be meant as the name of a value, unless it is the name of a
double. -/
theorem Helper.isValueName_written {first : String} {rest : List String} {span : Span}
    (word : isWord first = true)
    (other : Number.isDoubleName (Path.ofNames first rest span).written = false) :
    Helper.isValueName (String.ofList (Path.ofNames first rest span).written) = true := by
  obtain ⟨c, more, letters, begins, -⟩ := isWord_eq_cons word
  have written : (Path.ofNames first rest span).written =
      c :: (more ++ Path.writtenKeys (rest.map Key.name)) := by
    rw [Path.ofNames, Path.written, letters, List.cons_append]
  rw [written] at other ⊢
  have noDouble := Number.readFloat?_eq_none begins other
  have letter : (Text.isAlphabetic c || c = '_' || c = '$') = true := by
    simp only [isWordStart, Bool.or_eq_true] at begins ⊢
    tauto
  unfold isValueName
  rw [String.toList_ofList, noDouble]
  simpa using letter

/-! ## Calls that differ in their key -/

namespace Params

variable (params : Params) {before after : List Param} {key : Identifier}

/-- The parameters with another list. -/
def withList (list : List Param) : Params :=
  { params with list }

/-- What is found by a name does not depend on how a parameter of another name is written. -/
theorem find?_withList_of_ne {name : String} (differ : key.name ≠ name) (argument other : Argument) :
    (params.withList (before ++ ⟨key, argument⟩ :: after)).find? name =
      (params.withList (before ++ ⟨key, other⟩ :: after)).find? name := by
  simp [find?, withList, List.find?_append, differ]

/-- What is found by the name of a parameter is how it is written, or what stands in a later one of
the same name. -/
theorem find?_withList_self {name : String} (same : key.name = name) (argument : Argument) :
    (params.withList (before ++ ⟨key, argument⟩ :: after)).find? name =
      some (((params.withList after).find? name).getD argument) := by
  simp only [find?, withList, List.reverse_append, List.reverse_cons, List.append_assoc,
    List.find?_append, List.find?_cons, List.find?_nil, same]
  cases after.reverse.find? fun param => param.name.name = name <;> simp

/-- The value that is found by a name depends on what is found by it. -/
theorem get?_withList {list others : List Param} {name : String}
    (same : (params.withList list).find? name = (params.withList others).find? name) :
    (params.withList list).get? name = (params.withList others).get? name := by
  have resolves (argument : Argument) :
      (params.withList list).resolve argument = (params.withList others).resolve argument := by
    cases argument <;> rfl
  unfold get?
  rw [same]
  split
  · exact resolves _
  · rfl

end Params

/-- The call with another list of parameters. -/
def Call.withList (call : Call) (list : List Param) : Call :=
  { call with toParams := call.toParams.withList list }

namespace Helper

/-- A string in which names stand with dots between them is the value that the names lead to. -/
theorem calculationKey_literal {call : Call} {text : String}
    (written : call.find? "key" = some (.literal (.string text))) (named : isValueName text = true)
    (state : RenderState) :
    (calculationKey call).run.runFrom state =
      (.ok (.ok ((call.context.getDotted? ⟨state.root, call.globals⟩ text).getD (.string text))),
        state) := by
  have found : call.get? "key" = pure (some (.string text)) := by
    rw [Params.get?, written]
    rfl
  have literal : call.isLiteralText "key" = true := by
    rw [Params.isLiteralText, written]
  unfold calculationKey
  rw [RenderM.runFrom_liftBind, found, RenderM.runFrom_pure]
  simp only [literal, named, and_self, ↓reduceIte]
  rfl

/-- A path is the value that it leads to. -/
theorem calculationKey_path {call : Call} {path : Path} {value : Value} {state : RenderState}
    (written : call.find? "key" = some (.path path))
    (leads : call.context.get? ⟨state.root, call.globals⟩ path = some value) :
    (calculationKey call).run.runFrom state = (.ok (.ok value), state) := by
  have found : (call.get? "key").runFrom state = (.ok (some value), state) := by
    rw [Params.get?, written, ← leads]
    rfl
  have literal : call.isLiteralText "key" = false := by
    rw [Params.isLiteralText, written]
  unfold calculationKey
  rw [RenderM.runFrom_liftBind, found]
  cases value with
  | string text => simp [literal]
  | _ => rfl

/-- The operation and its operand depend on the parameters that are not the key. -/
theorem calculationMethod_withList {call : Call} {list others : List Param}
    (same : ∀ name, name ≠ "key" →
      (call.withList list).find? name = (call.withList others).find? name) :
    calculationMethod (call.withList list) = calculationMethod (call.withList others) := by
  have value (name : String) (other : name ≠ "key") :
      (call.withList list).get? name = (call.withList others).get? name :=
    call.get?_withList (same name other)
  have text : (call.withList list).getText? "method" = (call.withList others).getText? "method" := by
    unfold Params.getText?
    rw [value "method" (by decide)]
  have named (operation : Operation) : operation.name ≠ "key" := by cases operation <;> decide
  have has (operation : Operation) : (call.withList list).has operation.name =
      (call.withList others).has operation.name := by
    rw [Params.has, Params.has, same _ (named operation)]
  have operand (operation : Operation) := value operation.name (named operation)
  unfold calculationMethod
  simp only [text, has, operand, value "operand" (by decide)]

/-- A calculation depends on the value of its key and on the parameters that are not the key. -/
theorem math_withList {call : Call} {list others : List Param} {state : RenderState}
    (key : (calculationKey (call.withList list)).run.runFrom state =
      (calculationKey (call.withList others)).run.runFrom state)
    (same : ∀ name, name ≠ "key" →
      (call.withList list).find? name = (call.withList others).find? name) :
    (Renderer.runHelper (call.withList list) math).runFrom state =
      (Renderer.runHelper (call.withList others) math).runFrom state := by
  unfold Renderer.runHelper math
  simp only
  rw [RenderM.runFrom_run_bind, RenderM.runFrom_run_bind, key, calculationMethod_withList same]
  rfl

/-- The key depends on the parameter that is found by its name. -/
theorem calculationKey_congr {call : Call} {list others : List Param}
    (same : (call.withList list).find? "key" = (call.withList others).find? "key") :
    calculationKey (call.withList list) = calculationKey (call.withList others) := by
  have value : (call.withList list).get? "key" = (call.withList others).get? "key" :=
    call.get?_withList same
  have literal : (call.withList list).isLiteralText "key" =
      (call.withList others).isLiteralText "key" := by
    rw [Params.isLiteralText, Params.isLiteralText, same]
  unfold calculationKey
  rw [value, literal]
  rfl

/-- A path of names and its text lead a calculation to the same key, unless the text is the name of
a double. -/
theorem calculationKey_withList {call : Call} {before after : List Param} {key : Identifier}
    {first : String} {rest : List String} {place : Span} {state : RenderState}
    (isKey : key.name = "key") (words : ∀ name ∈ first :: rest, isWord name = true)
    (leads : call.context.get? ⟨state.root, call.globals⟩ (Path.ofNames first rest place) ≠ none)
    (other : Number.isDoubleName (Path.ofNames first rest place).written = false) :
    (calculationKey (call.withList (before ++ ⟨key, .literal (.string
        (String.ofList (Path.ofNames first rest place).written))⟩ :: after))).run.runFrom state =
      (calculationKey (call.withList
        (before ++ ⟨key, .path (Path.ofNames first rest place)⟩ :: after))).run.runFrom state := by
  have finds (argument : Argument) :
      (call.withList (before ++ ⟨key, argument⟩ :: after)).find? "key" =
        some (((call.withList after).find? "key").getD argument) :=
    call.find?_withList_self isKey argument
  cases later : (call.withList after).find? "key" with
  | some argument =>
    simp only [later, Option.getD_some] at finds
    rw [calculationKey_congr ((finds _).trans (finds _).symm)]
  | none =>
    obtain ⟨value, isValue⟩ := Option.ne_none_iff_exists'.mp leads
    have named := isValueName_written (words first List.mem_cons_self) other
    simp only [later, Option.getD_none] at finds
    rw [calculationKey_literal (finds _) named, calculationKey_path (finds _) isValue]
    simp only [Call.withList, Params.withList, Context.getDotted?_written _ _ words, isValue,
      Option.getD_some]

end Helper

/-- In a calculation a path of names and the string with its text as the key have the same effect,
on what is written, on the error, on the data and on all else that a render changes. The path leads
to a value, and its text is not the name of infinity or of what is not a number. -/
theorem Renderer.math_quotedKey {renderer : Renderer} {render : BodyRender} {origin : Origin}
    {context : Context} {state : RenderState} {helper key : Identifier} {before after : List Param}
    {main : Option Body} {bodies : Dict Body} {span place : Span} {first : String}
    {rest : List String} (calculates : renderer.helpers.get? helper.name = some Helper.math)
    (isKey : key.name = "key") (words : ∀ name ∈ first :: rest, isWord name = true)
    (leads : context.get? ⟨state.root, renderer.globals⟩ (Path.ofNames first rest place) ≠ none)
    (other : Number.isDoubleName (Path.ofNames first rest place).written = false) :
    (renderer.renderPart render origin context
        (.element (.helper helper) (before ++ ⟨key, .literal (.string
          (String.ofList (Path.ofNames first rest place).written))⟩ :: after)
          main bodies span)).runFrom state =
      (renderer.renderPart render origin context
        (.element (.helper helper) (before ++ ⟨key, .path (Path.ofNames first rest place)⟩ :: after)
          main bodies span)).runFrom state := by
  let call : Call := { renderer.params render origin context [] with
    main, bodies, filters := renderer.filters }
  have keys := @Helper.calculationKey_withList call before after _ _ _ _
    { state with pending := none } isKey words leads other
  have runs := Helper.math_withList keys
    fun name differ => call.find?_withList_of_ne (isKey ▸ differ.symm) _ _
  have step (list : List Param) :
      (renderer.renderPart render origin context
        (.element (.helper helper) list main bodies span)).runFrom state =
      (RenderM.gathered (runHelper (call.withList list) Helper.math) >>=
        origin.noteOutcome span).runFrom state := by
    rw [renderPart, renderHelper, calculates]
    rfl
  rw [step, step, RenderM.runFrom_bind, RenderM.runFrom_bind, RenderM.runFrom_gathered,
    RenderM.runFrom_gathered, runs]

/-- A renderer with the helpers that are always there, and with nothing else. -/
def Renderer.bare : Renderer where
  helpers := Helper.builtins
  filters := {}
  maxDepth := 0
  sources := { files := ⟨.directory [], []⟩ }
  globals := .null

/-- The state that is left when three is added to a key at the data. -/
def addThree (root : Value) (key : Argument) : RenderState :=
  let operand : Param := ⟨⟨"add", default⟩, .literal (.integer 3)⟩
  let part : Part :=
    .element (.helper ⟨"math", default⟩) ([] ++ ⟨⟨"key", default⟩, key⟩ :: [operand]) none [] default
  ((Renderer.bare.renderPart (fun _ _ _ => pure ()) ⟨⟨"", [], [], none⟩, 0⟩ [] part).runFrom
    { root }).2

/-- A price is found by its path and by the text of the path. -/
theorem Renderer.math_quotedKey_price :
    (Path.ofNames "price" ["net"] default).written = "price.net".toList ∧
      addThree (.map [("price", .map [("net", .integer 5)])]) (.literal (.string "price.net")) =
        addThree (.map [("price", .map [("net", .integer 5)])])
          (.path (Path.ofNames "price" ["net"] default)) ∧
      (addThree (.map [("price", .map [("net", .integer 5)])])
        (.path (Path.ofNames "price" ["net"] default))).output = ⟨"8", none⟩ := by
  have words : ∀ name ∈ ["price", "net"], isWord name = true := by decide
  have same := @math_quotedKey bare (fun _ _ _ => pure ()) ⟨⟨"", [], [], none⟩, 0⟩ []
    { root := .map [("price", .map [("net", .integer 5)])] } ⟨"math", default⟩ ⟨"key", default⟩ []
    [⟨⟨"add", default⟩, .literal (.integer 3)⟩] none [] default default "price" ["net"] rfl rfl
    words nofun (by decide)
  exact ⟨by decide, congrArg Prod.snd same, rfl⟩

/-- A value named `inf` is found by its path, while the text of the path is taken for a number. -/
theorem Renderer.math_quotedKey_infinity :
    isWord "inf" = true ∧ (Path.ofNames "inf" [] default).written = "inf".toList ∧
      Context.get? [] ⟨.map [("inf", .integer 5)], .null⟩ (Path.ofNames "inf" [] default) =
        some (.integer 5) ∧
      (addThree (.map [("inf", .integer 5)]) (.path (Path.ofNames "inf" [] default))).output =
        ⟨"8", none⟩ ∧
      (addThree (.map [("inf", .integer 5)]) (.literal (.string "inf"))).output.text = "" ∧
      (addThree (.map [("inf", .integer 5)]) (.literal (.string "inf"))).output.error.map
          Error.message =
        some "math add failed, operands must be numbers and not divide by zero" :=
  ⟨by decide, by decide, rfl, rfl, rfl, rfl⟩

end Dust
