import Dust.Proofs.Engine.NamedData
import Dust.Proofs.Filter.Escaping
import Dust.Proofs.Render.Iterating
import Dust.Proofs.Syntax.PlainText

/-!
# Joining texts

A template that goes through a list, writes each item and something between the items. What stands
between them may be any plain text, with braces as long as they open nothing. The source is compiled
to the section that it spells, and the section writes the texts of a list joined by the plain text.
-/

namespace Dust

/-! ### The template -/

/-- Where the parts of the section are written. -/
structure JoiningPlaces where
  /-- The section. -/
  whole : Span
  /-- Its key. -/
  key : Span
  /-- The reference. -/
  reference : Span
  /-- Its path. -/
  path : Span
  /-- Its filter. -/
  filter : Span
  /-- The call. -/
  call : Span
  /-- The name of the helper. -/
  name : Span
  deriving Inhabited

/-- A reference to the current value as it is. -/
def currentReference (places : JoiningPlaces) : Part :=
  .reference ⟨.current, [], places.path⟩ [⟨"s", places.filter⟩] places.reference

/-- A call that renders a body between the items of a list. -/
def betweenCall (separator : Body) (places : JoiningPlaces) : Part :=
  .element (.helper ⟨"sep", places.name⟩) [] (some separator) [] places.call

/-- A section that writes the items of a list, with a body between them. -/
def joiningSection (separator : Body) (places : JoiningPlaces) : Part :=
  .element (.test .iterate ⟨.relative, [.name "l"], places.key⟩) []
    (some [currentReference places, betweenCall separator places]) [] places.whole

/-- The source of a template that writes the items of a list, with a text between them. -/
def joiningSource (separator : String) : String :=
  "\x7b#l\x7d\x7b.|s\x7d\x7b@sep\x7d" ++ separator ++ "\x7b/sep\x7d\x7b/l\x7d"

/-- The source is the text of the section. -/
theorem writtenBody_joiningSection (separator : String) :
    Part.writtenBody [joiningSection (plainBody separator) default] =
      (joiningSource separator).toList := by
  unfold joiningSource
  rw [String.toList_append, String.toList_append, ← writtenBody_plainBody separator]
  simp [joiningSection, currentReference, betweenCall, Part.writtenBody, Part.written,
    Part.writtenBodies, Param.writtenAll, writtenTag, Head.sigil, SectionKind.sigil,
    Head.writtenKey, Path.written, Path.writtenKeys, Identifier.writtenFilters]

/-- A section or helper without parameters and named bodies is read from its open tag to its close
tag. -/
theorem BodySegments.plainElement {source later : List Char} {start : Nat} {head : Head}
    {main : Body} (writable : head.isWritable = true) (settled : main.isSettled = true)
    (stands : Stands source start (Part.written (.element head [] (some main) [] default)))
    (readMain : ∀ place later, rawLength later = 0 →
      Stands source place (Part.writtenBody main) →
        ∃ segments placed, BodySegments (Token.stringBody source) source place
          (Part.writtenBody main) main later segments placed) :
    ∃ segments placed, BodySegments (Token.stringBody source) source start
      (Part.written (.element head [] (some main) [] default))
      [.element head [] (some main) [] default] later segments placed :=
  BodySegments.element writable rfl settled List.Pairwise.nil rfl stands readMain
    fun _ _ _ _ => ⟨[], [], Yields.nil, rfl, Assembly.AddsBodies.nil⟩

/-- The section is read as it is written. -/
theorem segments_of_joiningSection {separator : String} (plain : IsPlainText separator.toList)
    {source later : List Char} {start : Nat}
    (stands : Stands source start (joiningSection (plainBody separator) default).written) :
    ∃ segments placed, BodySegments (Token.stringBody source) source start
      (joiningSection (plainBody separator) default).written
      [joiningSection (plainBody separator) default] later segments placed := by
  refine BodySegments.plainElement (by decide) rfl stands fun place later _ stands => ?_
  obtain ⟨segments, placed, reference⟩ :=
    @BodySegments.reference (Token.stringBody source) source place
      ((betweenCall (plainBody separator) default).written ++ [] ++ later) ⟨.current, [], default⟩
      [⟨"s", default⟩] default (by decide)
  obtain ⟨more, behind, between⟩ := @BodySegments.plainElement source ([] ++ later) _
    (.helper ⟨"sep", default⟩) (plainBody separator) (by decide) (isSettled_plainBody separator)
    stands.right.left fun place later stops _ => by
      rw [writtenBody_plainBody]
      obtain ⟨segments, found⟩ := plain.segments stops
      exact ⟨_, _, found⟩
  exact ⟨_, _, reference.append (between.append .nil)⟩

/-- A template that is compiled from the source has the tree of the section. -/
theorem compile_joiningSource {separator : String} (plain : IsPlainText separator.toList) :
    ∃ body, Template.compile .preserve (joiningSource separator) =
        .ok ⟨joiningSource separator, body, [], none⟩ ∧
      Part.unplacedBody body =
        Part.unplacedBody [joiningSection (plainBody separator) default] := by
  have stands : Stands (joiningSource separator).toList 0
      (Part.writtenBody [joiningSection (plainBody separator) default]) := by
    rw [writtenBody_joiningSection]
    exact Stands.self
  obtain ⟨segments, body, found⟩ :=
    @segments_of_joiningSection separator plain _ ([] ++ []) 0 stands.left
  have text : Body.ofText (Token.stringBody (joiningSource separator).toList) .preserve
      (joiningSource separator).toList 0 (joiningSource separator).toList =
        .ok (body ++ [], []) := by
    have written := writtenBody_joiningSection separator
    rw [Part.writtenBody, Part.writtenBody] at written
    have whole := (found.append .nil).ofText rfl
    rwa [written] at whole
  refine ⟨body ++ [], ?_, by rw [List.append_nil]; exact found.same⟩
  unfold Template.compile
  simp only [text, bind, Except.bind]

/-! ### Its tree -/

/-- The first part of a body stands for that of its tree. -/
theorem Part.unplacedBody_eq_cons {body : Body} {part : Part} {rest : Body}
    (same : Part.unplacedBody body = part :: rest) :
    ∃ first later, body = first :: later ∧ first.unplaced = part ∧
      Part.unplacedBody later = rest := by
  rw [unplacedBody_eq_map, List.map_eq_cons_iff] at same
  simpa only [unplacedBody_eq_map] using same

/-- A body without parts stands for a tree without parts. -/
theorem Part.unplacedBody_eq_nil {body : Body} (same : Part.unplacedBody body = []) :
    body = [] := by
  rwa [unplacedBody_eq_map, List.map_eq_nil_iff] at same

/-- A part stands for the tree of a section or helper without parameters and named bodies. -/
theorem Part.unplaced_eq_element {part : Part} {head : Head} {main : Body}
    (same : part.unplaced = .element head [] (some main) [] default) :
    ∃ placed inside span, part = .element placed [] (some inside) [] span ∧
      placed.unplaced = head ∧ Part.unplacedBody inside = main := by
  cases part with
  | element placed params body bodies span =>
    simp only [unplaced, Part.element.injEq, and_true] at same
    obtain ⟨sameHead, noParams, sameMain, noBodies⟩ := same
    cases params with
    | cons => cases noParams
    | nil =>
      cases bodies with
      | cons => cases noBodies
      | nil =>
        cases body with
        | none => cases sameMain
        | some inside => exact ⟨placed, inside, span, rfl, sameHead, Option.some.inj sameMain⟩
  | _ => cases same

/-- A body stands for the tree of a plain text. -/
theorem Part.unplacedBody_eq_plain {body : Body} {text : String}
    (same : Part.unplacedBody body = Part.unplacedBody (plainBody text)) :
    body = plainBody text := by
  unfold plainBody at same ⊢
  split at same
  · rw [if_pos ‹_›]
    exact unplacedBody_eq_nil same
  · rw [if_neg ‹_›]
    obtain ⟨part, later, rfl, isText, noMore⟩ := unplacedBody_eq_cons same
    rw [unplacedBody_eq_nil noMore]
    cases part with
    | text content =>
      have same : Part.text content = .text text := isText
      rw [same]
    | _ => cases isText

/-- Keys without places are the keys if none of them is a path. -/
theorem Path.unplacedKeys_eq {keys plain : List Key}
    (same : Path.unplacedKeys keys = plain) (named : ∀ key ∈ plain, ∃ name, key = .name name) :
    keys = plain := by
  induction keys generalizing plain with
  | nil => exact same
  | cons key rest induction =>
    subst same
    obtain ⟨⟨name, isName⟩, others⟩ := List.forall_mem_cons.mp named
    rw [unplacedKeys, ← induction rfl others]
    cases key with
    | path => cases isName
    | _ => rfl

/-- A path stands for its tree if its keys are names. -/
theorem Path.eq_of_unplaced {path plain : Path} (same : path.unplaced = plain)
    (named : ∀ key ∈ plain.keys, ∃ name, key = .name name) :
    path = ⟨plain.anchor, plain.keys, path.span⟩ := by
  obtain ⟨anchor, keys, span⟩ := path
  subst same
  rw [unplaced] at named ⊢
  rw [← unplacedKeys_eq rfl named]

/-- A body with the tree of the section is the section, somewhere. -/
theorem eq_joiningSection {body : Body} {separator : String}
    (same : Part.unplacedBody body =
      Part.unplacedBody [joiningSection (plainBody separator) default]) :
    ∃ places, body = [joiningSection (plainBody separator) places] := by
  obtain ⟨part, later, rfl, isSection, noMore⟩ := Part.unplacedBody_eq_cons same
  obtain rfl := Part.unplacedBody_eq_nil noMore
  obtain ⟨head, inside, span, rfl, isHead, isInside⟩ := Part.unplaced_eq_element isSection
  obtain ⟨reference, later, rfl, isReference, isLater⟩ := Part.unplacedBody_eq_cons isInside
  obtain ⟨between, rest, rfl, isBetween, noMore⟩ := Part.unplacedBody_eq_cons isLater
  obtain rfl := Part.unplacedBody_eq_nil noMore
  obtain ⟨helper, separated, call, rfl, isHelper, isSeparated⟩ := Part.unplaced_eq_element isBetween
  obtain rfl := Part.unplacedBody_eq_plain isSeparated
  cases head with
  | helper => cases isHead
  | test kind key =>
    obtain ⟨rfl, isKey⟩ := Head.test.inj isHead
    rw [Path.eq_of_unplaced isKey (by simp [Path.unplaced, Path.unplacedKeys, Key.unplaced])]
    cases helper with
    | test => cases isHelper
    | helper name =>
      obtain ⟨_, _⟩ := name
      cases isHelper
      cases reference with
      | reference path filters place =>
        obtain ⟨isPath, isFilters, -⟩ := Part.reference.inj isReference
        rw [Path.eq_of_unplaced isPath (by simp [Path.unplaced, Path.unplacedKeys])]
        have isChain : filters.map Identifier.unplaced = [⟨"s", default⟩] := isFilters
        obtain ⟨filter, rest, rfl, isFilter, noMore⟩ := List.map_eq_cons_iff.mp isChain
        obtain rfl := List.map_eq_nil_iff.mp noMore
        obtain ⟨_, place⟩ := filter
        cases isFilter
        exact ⟨⟨span, key.span, _, path.span, place, call, _⟩, rfl⟩
      | _ => cases isReference

/-! ### Rendering it -/

/-- Two texts in a row are one. -/
theorem Output.text_append_text (first second : String) :
    ({ text := first } : Output) ++ ({ text := second } : Output) = { text := first ++ second } :=
  (Output.write_eq_append { text := first } second).symm

namespace Renderer

variable {renderer : Renderer} {separator : String} {state : RenderState}

/-- A plain text is written as it is. -/
theorem runFrom_plainBody (bound : Nat) (origin : Origin) (context : Context) (text : String) :
    (renderer.renderBody (bound + 1) origin context (plainBody text)).runFrom state =
      (.ok (), { state with output := state.output ++ ({ text } : Output) }) := by
  change (renderer.renderParts _ origin context (plainBody text)).runFrom state = _
  unfold plainBody
  split
  · rename_i empty
    rw [empty]
    change (Except.ok (), state) =
      (Except.ok (), { state with output := state.output ++ ({} : Output) })
    rw [Output.append_empty]
  · simp [renderParts, renderPart]

/-- A reference to a text that keeps the automatic filters away writes the text as it is. -/
theorem runFrom_currentReference {context : Context} {text : String} (render : BodyRender)
    (origin : Origin) (isText : context.current ⟨state.root, renderer.globals⟩ = .string text)
    (places : JoiningPlaces) :
    (renderer.renderPart render origin context (currentReference places)).runFrom state =
      (.ok (), { state with output := state.output ++ ({ text } : Output) }) := by
  have known : renderer.filters.unknown? [⟨"s", places.filter⟩] = none := rfl
  have kept (value : Value) : renderer.filters.apply ["s"] value = value := by
    simp [FilterSet.apply, FilterSet.applyAutomatic, FilterSet.applyChain, Filter.suppressing]
  have found : context.get? ⟨state.root, renderer.globals⟩ ⟨.current, [], places.path⟩ =
      some (.string text) := by
    rw [Context.get?, isText]
  rw [currentReference, renderPart, runFrom_renderReference renderer origin context _ known, found]
  simp only [List.map_cons, List.map_nil, kept, Value.display, Output.write_eq_append]

section Separator

variable {bound : Nat} {origin : Origin}
  (between : renderer.helpers.get? "sep" = some Helper.separator) {length : Nat}
  (counted : (length : Int) - 1 ≤ Number.greatestInteger) (places : JoiningPlaces)

include between counted

/-- For an item of a list the section writes the item, and the separator behind it unless the item
is the last one. -/
theorem runFrom_joiningItem (context : Context) (text : String) (index : Nat) :
    (renderer.renderBody (bound + 2) origin
      (.value (.string text) (some ⟨index, length⟩) :: context)
      [currentReference places, betweenCall (plainBody separator) places]).runFrom state =
      (.ok (), { state with output := state.output ++
        ({ text := if index + 1 < length then text ++ separator else text } : Output) }) := by
  change (renderer.renderParts (renderer.renderBody (bound + 1)) origin _ _).runFrom state = _
  simp only [renderParts, RenderM.runFrom_bind, RenderM.runFrom_pure]
  rw [runFrom_currentReference _ origin rfl]
  simp only [betweenCall, renderPart]
  rw [renderHelper_separator between rfl counted]
  by_cases more : index + 1 < length
  · simp only [if_pos more]
    rw [RenderM.runFrom_gathered, Option.getD_some, runFrom_plainBody]
    simp only [Output.append_assoc, Output.append_empty, Output.text_append_text]
  · simp only [if_neg more]

/-- Going through a list of texts, or through the rest of one, writes them joined by the
separator. -/
theorem runFrom_joiningItems (context : Context) (texts : List String) (index : Nat)
    (rest : index + texts.length = length) :
    (renderItems (renderer.renderBody (bound + 2)) origin context length
      [currentReference places, betweenCall (plainBody separator) places] index
      (texts.map .string)).runFrom state =
      (.ok (), { state with
        output := state.output ++ ({ text := separator.intercalate texts } : Output) }) := by
  induction texts generalizing index state with
  | nil =>
    change (Except.ok (), state) = (Except.ok (), { state with output := state.output ++ _ })
    rw [String.intercalate_nil, Output.append_empty]
  | cons text later induction =>
    rw [List.length_cons] at rest
    rw [List.map_cons, renderItems, RenderM.runFrom_bind, runFrom_joiningItem between counted]
    simp only
    rw [induction (index + 1) (by omega)]
    simp only [Output.append_assoc, Output.text_append_text]
    cases later with
    | nil =>
      have isLast : ¬ index + 1 < length := by
        rw [List.length_nil] at rest
        omega
      simp [isLast]
    | cons next more =>
      have isInner : index + 1 < length := by
        rw [List.length_cons] at rest
        omega
      simp [isInner, String.append_assoc]

omit counted

/-- The section writes the texts of a list in the data joined by the separator. -/
theorem runFrom_joiningSection {texts : List String}
    (counted : (texts.length : Int) - 1 ≤ Number.greatestInteger) (filled : texts ≠ [])
    (listed : state.root.get? "l" = some (.list (texts.map .string))) :
    (renderer.renderBody (bound + 3) origin [.blocks []]
      [joiningSection (plainBody separator) places]).runFrom state =
      (.ok (), { state with
        output := state.output ++ ({ text := separator.intercalate texts } : Output) }) := by
  have found : Context.get? [.blocks []] ⟨state.root, renderer.globals⟩
      ⟨.relative, [.name "l"], places.key⟩ = some (.list (texts.map .string)) := by
    have special : Context.special? [.blocks []] "l" = none := rfl
    simp [Context.get?, Context.toStep?, Context.find?, special, Context.search?, Value.follow?,
      listed, Frame.value?, Context.followKeys?]
  have nonempty : texts.map Value.string ≠ [] := mt List.map_eq_nil_iff.mp filled
  have items := @runFrom_joiningItems renderer separator state bound origin between texts.length
    counted places [.blocks []] texts 0 (Nat.zero_add _)
  change (renderer.renderParts (renderer.renderBody (bound + 2)) origin [.blocks []] _).runFrom
    state = _
  simp only [renderParts, renderPart, joiningSection, RenderM.runFrom_bind,
    runFrom_renderTest_list found nonempty, withParams, List.isEmpty_nil, if_true,
    RenderM.runFrom_pure, List.length_map, items]

end Separator

end Renderer

/-- The template that is compiled from the source writes the texts of a list in the data joined by
the separator. -/
theorem EngineM.renderOutput_joins {separator : String} {body : Body}
    (same : Part.unplacedBody body =
      Part.unplacedBody [joiningSection (plainBody separator) default])
    (engine : Engine) (deep : 3 ≤ engine.bound)
    (between : engine.helpers.get? "sep" = Helper.builtins.get? "sep") (input : RenderInput)
    {texts : List String} (filled : texts ≠ [])
    (counted : (texts.length : Int) - 1 ≤ Number.greatestInteger)
    (listed : input.data.get? "l" = some (.list (texts.map .string))) :
    ((EngineM.renderOutput ⟨joiningSource separator, body, [], none⟩ input).run engine).1 =
      .ok { text := separator.intercalate texts } := by
  obtain ⟨places, rfl⟩ := eq_joiningSection same
  obtain ⟨bound, isBound⟩ := Nat.exists_eq_add_of_le' deep
  have root : (engine.startState input).root.get? "l" = some (.list (texts.map .string)) := by
    have strings : (texts.map Value.string).map Value.withFiniteFloats = texts.map .string := by
      rw [List.map_map]
      rfl
    rw [Engine.startState, Value.get?_withFiniteFloats, listed, Option.map_some,
      Value.withFiniteFloats, Value.withFiniteItems_eq_map, strings]
  have run := @Renderer.runFrom_joiningSection (engine.renderer input) separator
    (engine.startState input) bound
    ⟨⟨joiningSource separator, [joiningSection (plainBody separator) places], [], none⟩, 0⟩ between
    places texts counted filled root
  rw [renderOutput_run, isBound, Renderer.renderTemplate, run]
  change Except.ok (({ text := "" } : Output) ++ ({ text := _ } : Output)) = _
  rw [Output.text_append_text, String.empty_append]

/-! ### Lists in general -/

namespace Renderer

/-- A section goes through the list that its key has led to when it is entered. Its body is rendered
exactly once for every item, in order, each time in a frame with the item and its place, and what is
written are these renderings one after the other, whatever they change. The section comes to a halt
if one of them does. All contexts in front of the frame of an item that tell no other place show the
place of this item, and the helpers `first`, `last` and `sep` render their bodies by it. So every
plain text in `sep` joins the texts of a list that is not longer than can be counted. -/
theorem renderTest_goes_through (renderer : Renderer) (bound : Nat) (origin : Origin)
    (context : Context) (key : Path) (list : List Param) (body : Body) (bodies : Dict Body)
    (span : Span) (state : RenderState) (items : List Value)
    (isList : context.get? ⟨state.root, renderer.globals⟩ key = some (.list items))
    (filled : items ≠ [])
    (builtin : Site.UsesBuiltins renderer state.store
      ⟨origin, context, [.element (.test .iterate key) list (some body) bodies span]⟩)
    (helpers : ∀ helper ∈ ["first", "last", "sep"],
      renderer.helpers.get? helper = Helper.builtins.get? helper) :
    let render := renderer.renderBody bound
    let direct := (renderer.renderPart render origin context
      (.element (.test .iterate key) list (some body) bodies span)).runFrom state
    let each := (do
      let inner ← renderer.withParams render origin context list
      renderEach render origin inner body items).runFrom state
    direct.1 = each.1.map (fun _ => ()) ∧
    (∀ outputs later, each = (.ok outputs, later) →
      outputs.length = items.length ∧
      direct = (.ok (), { later with output := outputs.foldl (· ++ ·) later.output })) ∧
    (∀ (item : Value) (place : Iteration) (inner : Context),
      (∀ scope, Context.current (.value item (some place) :: inner) scope = item) ∧
      ∀ frames : Context, (∀ frame ∈ frames, frame.iteration? = none) →
        ShowsPlace renderer (frames ++ .value item (some place) :: inner) place) ∧
    ∀ separator : String, IsPlainText separator.toList →
      ∃ template, Template.compile .preserve (joiningSource separator) = .ok template ∧
        ∀ (engine : Engine) (input : RenderInput) (texts : List String), 3 ≤ engine.bound →
          engine.helpers.get? "sep" = Helper.builtins.get? "sep" → texts ≠ [] →
          (texts.length : Int) - 1 ≤ Number.greatestInteger →
          input.data.get? "l" = some (.list (texts.map .string)) →
          ((EngineM.renderOutput template input).run engine).1 =
            .ok { text := separator.intercalate texts } := by
  intro render direct each
  obtain ⟨sameResult, appended⟩ := renderTest_eq_each isList filled builtin
  refine ⟨sameResult, appended, fun item place inner => ⟨fun _ => rfl, fun frames unplaced =>
    showsPlace renderer helpers unplaced item place inner⟩, fun separator plain => ?_⟩
  obtain ⟨parts, compiled, same⟩ := compile_joiningSource plain
  exact ⟨_, compiled, fun engine input texts deep between filled counted listed =>
    EngineM.renderOutput_joins same engine deep between input filled counted listed⟩

/-- A body that writes the item, makes the list another value, and writes a comma between items. -/
def replacingBody : Body :=
  [.reference ⟨.current, [], default⟩ [] default,
    .element (.helper ⟨"set", default⟩)
      [⟨⟨"key", default⟩, .literal (.string "l")⟩, ⟨⟨"value", default⟩, .literal (.integer 0)⟩]
      none [] default,
    .element (.helper ⟨"sep", default⟩) [] (some [.text ", "]) [] default]

/-- A section goes through a list that its body replaces, and a brace that opens nothing joins the
items. -/
theorem renderTest_goes_through_replaced :
    let part : Part := .element (.test .iterate ⟨.relative, [.name "l"], default⟩) []
      (some replacingBody) [] default
    let origin : Origin := ⟨⟨"", [part], [], none⟩, 0⟩
    let data : Value := .map [("l", .list [.string "a", .string "b"])]
    let direct := (builtinRenderer.renderPart (builtinRenderer.renderBody 2) origin []
      part).runFrom { root := data }
    Site.UsesBuiltins builtinRenderer {} ⟨origin, [], [part]⟩ ∧
      direct.2.output = { text := "a, b" } ∧ direct.2.root = .map [("l", .integer 0)] ∧
      ∃ template, Template.compile .preserve (joiningSource " \x7b ") = .ok template ∧
        ((EngineM.renderOutput template { data }).run
          { sources := builtinRenderer.sources }).1 = .ok { text := "a \x7b b" } := by
  intro part origin data direct
  let state : RenderState := { root := data }
  have builtin : Site.UsesBuiltins builtinRenderer state.store ⟨origin, [], [part]⟩ :=
    Site.usesBuiltins_of_helpers rfl _ _
  obtain ⟨-, appended, -, joins⟩ := renderTest_goes_through builtinRenderer 2 origin [] _ []
    replacingBody [] default state [.string "a", .string "b"] rfl (by simp) builtin fun _ _ => rfl
  obtain ⟨-, ends⟩ := appended [{ text := "a, " }, { text := "b" }]
    { state with root := .map [("l", .integer 0)] } rfl
  have run : direct = (.ok (), { state with
      output := { text := "a, b" }, root := .map [("l", .integer 0)] }) := ends
  obtain ⟨template, compiled, joined⟩ := joins " \x7b " (by unfold IsPlainText; decide)
  have written := joined { sources := builtinRenderer.sources } { data } ["a", "b"] (by decide) rfl
    (by simp) (by decide) rfl
  rw [run]
  exact ⟨builtin, rfl, rfl, template, compiled, written⟩

end Renderer

end Dust
