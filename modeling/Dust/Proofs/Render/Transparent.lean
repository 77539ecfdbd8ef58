import Dust.Proofs.Render.HelperLaw
import Dust.Proofs.Render.LookUp
import Dust.Proofs.Render.Site

/-!
# Frames that show nothing

The frame of a template without inline partials holds no value, no inline partial and no selection.
So no look-up finds anything in it, and it makes no difference to a render wherever it stands: the
context without such frames is as good as the context.
-/

namespace Dust

/-- Whether a frame may show anything. Only a frame of no inline partials does not. -/
def Frame.isVisible : Frame → Bool
  | .blocks definitions => !definitions.isEmpty
  | _ => true

/-- A frame that shows nothing is one of no inline partials. -/
theorem Frame.eq_of_not_visible {frame : Frame} (hidden : ¬ frame.isVisible = true) :
    frame = .blocks [] := by
  cases frame with
  | blocks definitions =>
    have empty : definitions = [] := by simpa [isVisible] using hidden
    rw [empty]
  | value => exact absurd rfl hidden
  | selection => exact absurd rfl hidden

namespace Context

variable (context : Context) (scope : Scope)

/-- The frames that may show anything. -/
def visible : Context :=
  context.filter Frame.isVisible

/-- No more frames are left out the second time. -/
theorem visible_append_visible (frames : Context) :
    visible (frames ++ context.visible) = visible (frames ++ context) := by
  simp [visible]

/-- A search through frames passes by those that show nothing. -/
theorem findSome?_visible {α : Type} {find : Frame → Option α} (blind : find (.blocks []) = none) :
    context.visible.findSome? find = context.findSome? find := by
  induction context with
  | nil => rfl
  | cons frame outer induction =>
    by_cases shows : frame.isVisible = true
    · rw [visible, List.filter_cons_of_pos shows, List.findSome?_cons, List.findSome?_cons]
      cases find frame with
      | some _ => rfl
      | none => exact induction
    · rw [visible, List.filter_cons_of_neg shows, List.findSome?_cons,
        Frame.eq_of_not_visible shows, blind]
      exact induction

/-- The innermost value is in a visible frame. -/
@[simp]
theorem current_visible : current context.visible scope = current context scope := by
  rw [current, current, findSome?_visible context rfl]

/-- The innermost place in a list is in a visible frame. -/
@[simp]
theorem iteration?_visible : iteration? context.visible = iteration? context :=
  findSome?_visible context rfl

/-- The innermost selection is in a visible frame. -/
@[simp]
theorem selection?_visible : selection? context.visible = selection? context :=
  findSome?_visible context rfl

/-- Inline partials are in visible frames. -/
@[simp]
theorem block?_visible (name : String) : block? context.visible name = block? context name :=
  findSome?_visible context rfl

/-- The value of a name is in a visible frame. -/
@[simp]
theorem find?_visible (step : Step) :
    find? context.visible scope step = find? context scope step := by
  have searched : search? context.visible scope step = search? context scope step := by
    rw [search?, search?, findSome?_visible context rfl]
  simp only [find?, special?, iteration?_visible, searched]

/-- The value of a path is in visible frames. -/
@[simp]
theorem get?_visible (path : Path) : get? context.visible scope path = get? context scope path :=
  get?_congr_of_find? (current_visible context scope) (find?_visible context scope) path

/-- The value of names with dots between them is in visible frames. -/
@[simp]
theorem getDotted?_visible (text : String) :
    getDotted? context.visible scope text = getDotted? context scope text := by
  simp only [getDotted?, find?_visible]

/-- The values of the frames are those of visible ones. -/
@[simp]
theorem dump_visible : dump context.visible scope = dump context scope := by
  have values : nested scope context.visible = nested scope context := by
    induction context with
    | nil => rfl
    | cons frame outer induction =>
      by_cases shows : frame.isVisible = true
      · rw [visible, List.filter_cons_of_pos shows]
        simp only [nested]
        rw [← visible, induction]
      · rw [visible, List.filter_cons_of_neg shows, Frame.eq_of_not_visible shows]
        exact induction
  rw [dump, dump, values]

end Context

/-- Rendering bodies does not depend on frames that show nothing. -/
def BodyRender.Overlooks (render : BodyRender) : Prop :=
  ∀ origin context body, render origin context.visible body = render origin context body

/-- Rendering bodies does not depend on frames that show nothing behind others. -/
theorem BodyRender.Overlooks.behind {render : BodyRender} (overlooks : render.Overlooks)
    (origin : Origin) (frames context : Context) (body : Body) :
    render origin (frames ++ context.visible) body = render origin (frames ++ context) body := by
  rw [← overlooks, Context.visible_append_visible, overlooks]

/-! ### Helpers -/

namespace Call

/-- The call without frames that show nothing. -/
def visible (call : Call) : Call :=
  { call with context := call.context.visible }

variable {call : Call} (overlooks : ∀ frames body,
  call.render (frames ++ call.context.visible) body = call.render (frames ++ call.context) body)

/-- The call has the same parameters. -/
@[simp]
theorem has_visible (name : String) : call.visible.has name = call.has name := rfl

/-- The call has the same plain strings. -/
@[simp]
theorem isLiteralText_visible (name : String) :
    call.visible.isLiteralText name = call.isLiteralText name := rfl

/-- The values around all frames are the same. -/
@[simp]
theorem scope_visible : call.visible.scope = call.scope := rfl

include overlooks

/-- Parameters have the same values. -/
theorem resolve_visible (argument : Argument) :
    call.visible.resolve argument = call.resolve argument := by
  cases argument with
  | literal _ => rfl
  | path path => simp only [visible, Params.resolve, Params.scope, Context.get?_visible]
  | interpolated body =>
    have rendered := overlooks [] body
    simp only [List.nil_append] at rendered
    simp only [visible, Params.resolve, rendered]

/-- The parameter of a name has the same value. -/
theorem get?_visible (name : String) : call.visible.get? name = call.get? name := by
  have same : call.visible.find? name = call.find? name := rfl
  unfold Params.get?
  rw [same]
  cases call.find? name with
  | none => rfl
  | some argument => exact resolve_visible overlooks argument

/-- What is written of the value of a parameter is the same. -/
theorem getText?_visible (name : String) : call.visible.getText? name = call.getText? name := by
  simp only [Params.getText?, get?_visible overlooks]

/-- The main body is rendered the same behind other frames. -/
theorem renderMainIn_visible (frames : Context) :
    call.visible.renderMainIn (frames ++ call.context.visible) =
      call.renderMainIn (frames ++ call.context) :=
  overlooks frames _

/-- The main body is rendered the same. -/
theorem renderMain_visible : call.visible.renderMain = call.renderMain :=
  renderMainIn_visible overlooks []

/-- The body for the other case is rendered the same. -/
theorem renderElse_visible : call.visible.renderElse = call.renderElse := by
  have same : call.visible.body? "else" = call.body? "else" := rfl
  unfold renderElse
  rw [same]
  cases call.body? "else" with
  | none => rfl
  | some body => exact overlooks [] body

end Call

namespace Renderer

variable {call : Call} (overlooks : ∀ frames body,
  call.render (frames ++ call.context.visible) body = call.render (frames ++ call.context) body)

include overlooks

/-- A comparison does not depend on frames that show nothing. -/
theorem comparison_visible (test : Option Ordering → Bool) :
    runHelper call.visible (Helper.comparison test) = runHelper call (Helper.comparison test) := by
  have selected : call.visible.context.selection? = call.context.selection? :=
    Context.selection?_visible call.context
  have decided (selection : Option Selection) (passes : Bool) :
      Helper.decideComparison call.visible selection passes =
        Helper.decideComparison call selection passes := by
    simp only [Helper.decideComparison, Call.renderMain_visible overlooks,
      Call.renderElse_visible overlooks]
  simp only [runHelper, Helper.comparison, Helper.comparisonKey, selected, decided,
    Call.has_visible, Call.get?_visible overlooks, Call.getText?_visible overlooks]

/-- The helper that begins a selection does not depend on frames that show nothing. -/
theorem select_visible : runHelper call.visible Helper.select = runHelper call Helper.select := by
  have rendered (selection : Selection) :
      call.visible.renderMainIn (.selection selection :: call.visible.context) =
        call.renderMainIn (.selection selection :: call.context) :=
    Call.renderMainIn_visible overlooks [.selection selection]
  simp only [runHelper, Helper.select, rendered, Call.has_visible, Call.get?_visible overlooks,
    Call.getText?_visible overlooks]

/-- A helper that asks whether a comparison has matched does not depend on frames that show
nothing. -/
theorem whenResolved_visible (name : String) (resolved : Bool) :
    runHelper call.visible (Helper.whenResolved name resolved) =
      runHelper call (Helper.whenResolved name resolved) := by
  have selected : call.visible.context.selection? = call.context.selection? :=
    Context.selection?_visible call.context
  simp only [runHelper, Helper.whenResolved, selected, Call.renderMain_visible overlooks]

/-- The helper that calculates does not depend on frames that show nothing. -/
theorem math_visible : runHelper call.visible Helper.math = runHelper call Helper.math := by
  have named (scope : Scope) (text : String) :
      call.visible.context.getDotted? scope text = call.context.getDotted? scope text :=
    Context.getDotted?_visible call.context scope text
  have rendered (selection : Selection) (value : Value) :
      call.visible.renderMainIn
          (.selection selection :: .value value none :: call.visible.context) =
        call.renderMainIn (.selection selection :: .value value none :: call.context) :=
    Call.renderMainIn_visible overlooks [.selection selection, .value value none]
  have main : call.visible.main = call.main := rfl
  simp only [runHelper, Helper.math, Helper.calculationKey, Helper.calculationMethod, named,
    rendered, main, Call.has_visible, Call.isLiteralText_visible, Call.scope_visible,
    Call.get?_visible overlooks, Call.getText?_visible overlooks]

/-- A helper that asks for the place in a list does not depend on frames that show nothing. -/
theorem whenPlaced_visible (test : Iteration → Bool) :
    runHelper call.visible (Helper.whenPlaced test) = runHelper call (Helper.whenPlaced test) := by
  have placed : call.visible.context.iteration? = call.context.iteration? :=
    Context.iteration?_visible call.context
  simp only [runHelper, Helper.whenPlaced, placed, Call.renderMain_visible overlooks]

/-- The helper that renders between items does not depend on frames that show nothing. -/
theorem separator_visible :
    runHelper call.visible Helper.separator = runHelper call Helper.separator := by
  have placed : call.visible.context.iteration? = call.context.iteration? :=
    Context.iteration?_visible call.context
  simp only [runHelper, Helper.separator, Helper.integerParam, placed,
    Call.get?_visible overlooks, Call.renderMain_visible overlooks]

/-- The helper that tests a condition does not depend on frames that show nothing. -/
theorem condition_visible :
    runHelper call.visible Helper.condition = runHelper call Helper.condition := by
  simp only [runHelper, Helper.condition, Call.has_visible, Call.get?_visible overlooks,
    Call.renderMain_visible overlooks, Call.renderElse_visible overlooks]

/-- The helper that replaces a missing value does not depend on frames that show nothing. -/
theorem default_visible :
    runHelper call.visible Helper.default = runHelper call Helper.default := by
  have selected : call.visible.context.selection? = call.context.selection? :=
    Context.selection?_visible call.context
  have written (value : Value) : call.visible.writeValue value = call.writeValue value := rfl
  simp only [runHelper, Helper.default, selected, written, Call.has_visible,
    Call.get?_visible overlooks, Call.renderMain_visible overlooks]

/-- The helper that tells a size does not depend on frames that show nothing. -/
theorem size_visible : runHelper call.visible Helper.size = runHelper call Helper.size := by
  simp only [runHelper, Helper.size, Call.get?_visible overlooks]

/-- The helper that looks into a value does not depend on frames that show nothing. -/
theorem look_visible : runHelper call.visible Helper.look = runHelper call Helper.look := by
  simp only [runHelper, Helper.look, Call.get?_visible overlooks,
    Call.getText?_visible overlooks]

/-- The helper that writes the context does not write frames that show nothing. -/
theorem contextDump_visible :
    runHelper call.visible Helper.contextDump = runHelper call Helper.contextDump := by
  have current (scope : Scope) :
      call.visible.context.current scope = call.context.current scope :=
    Context.current_visible call.context scope
  have dumped (scope : Scope) : call.visible.context.dump scope = call.context.dump scope :=
    Context.dump_visible call.context scope
  simp only [runHelper, Helper.contextDump, current, dumped, Call.scope_visible,
    Call.getText?_visible overlooks]

/-- Finding the key of a change does not depend on frames that show nothing. -/
theorem changeKey_visible : Helper.changeKey call.visible = Helper.changeKey call := by
  simp only [Helper.changeKey, Call.get?_visible overlooks]

/-- The helper that changes a value does not depend on frames that show nothing. -/
theorem set_visible (name : String) :
    runHelper call.visible (Helper.change name Helper.changeKeyValue) =
      runHelper call (Helper.change name Helper.changeKeyValue) := by
  simp only [runHelper, Helper.change, Helper.changeKeyValue, changeKey_visible overlooks,
    Call.has_visible, Call.get?_visible overlooks]

/-- The helper that removes a value does not depend on frames that show nothing. -/
theorem unset_visible (name : String) :
    runHelper call.visible (Helper.change name Helper.removeKey) =
      runHelper call (Helper.change name Helper.removeKey) := by
  simp only [runHelper, Helper.change, Helper.removeKey, changeKey_visible overlooks]

/-- A helper that is always there does not depend on frames that show nothing. -/
theorem builtin_visible {name : String} {helper : Helper}
    (builtin : (name, helper) ∈ Helper.builtins) :
    runHelper call.visible helper = runHelper call helper := by
  cases Helper.builtin_cases builtin with
  | comparison => exact comparison_visible overlooks _
  | select => exact select_visible overlooks
  | any => exact whenResolved_visible overlooks _ _
  | none => exact whenResolved_visible overlooks _ _
  | math => exact math_visible overlooks
  | first => exact whenPlaced_visible overlooks _
  | last => exact whenPlaced_visible overlooks _
  | separator => exact separator_visible overlooks
  | condition => exact condition_visible overlooks
  | default => exact default_visible overlooks
  | size => exact size_visible overlooks
  | look => exact look_visible overlooks
  | contextDump => exact contextDump_visible overlooks
  | set => exact set_visible overlooks _
  | unset => exact unset_visible overlooks _

end Renderer

/-! ### Bodies -/

namespace Renderer

variable {renderer : Renderer} {render : BodyRender} (overlooks : render.Overlooks)
  (origin : Origin) (context : Context)

include overlooks

/-- The values of parameters do not depend on frames that show nothing. -/
theorem resolveAll_visible (list : List Param) :
    (renderer.params render origin context.visible list).resolveAll =
      (renderer.params render origin context list).resolveAll := by
  let call : Call :=
    { renderer.params render origin context list with
      main := none, bodies := [], filters := renderer.filters }
  have resolved : call.visible.resolve = call.resolve :=
    funext (Call.resolve_visible fun frames => overlooks.behind origin frames context)
  have into (entries : Dict Value) (some : List Param) :
      (renderer.params render origin context.visible list).resolveInto entries some =
        (renderer.params render origin context list).resolveInto entries some := by
    induction some generalizing entries with
    | nil => rfl
    | cons param rest induction =>
      simp only [Params.resolveInto, induction]
      exact congrArg (· >>= _) (congrFun resolved param.argument)
  exact into [] list

/-- A section does not depend on frames that show nothing. -/
theorem renderTest_visible (kind : SectionKind) (key : Path) (list : List Param)
    (main : Option Body) (bodies : Dict Body) :
    renderer.renderTest render origin context.visible kind key list main bodies =
      renderer.renderTest render origin context kind key list main bodies := by
  have items (frames : Context) (length index : Nat) (body : Body) (items : List Value) :
      renderItems render origin (frames ++ context.visible) length body index items =
        renderItems render origin (frames ++ context) length body index items := by
    induction items generalizing index with
    | nil => rfl
    | cons item rest induction =>
      have here := overlooks.behind origin (.value item (some ⟨index, length⟩) :: frames) context
        body
      simp only [List.cons_append] at here
      simp only [renderItems, here, induction]
  have choice (frames : Context) (value : Option Value) :
      renderChoice render origin (frames ++ context.visible) kind value main bodies =
        renderChoice render origin (frames ++ context) kind value main bodies := by
    have one (value : Value) (body : Body) :
        render origin (.value value none :: (frames ++ context.visible)) body =
          render origin (.value value none :: (frames ++ context)) body :=
      overlooks.behind origin (.value value none :: frames) context body
    simp only [renderChoice, renderFor, renderOptional, items, one,
      overlooks.behind origin frames context]
  unfold renderTest withParams
  rw [resolveAll_visible overlooks]
  cases list.isEmpty with
  | true =>
    have plain := choice []
    simp only [List.nil_append] at plain
    simp [plain]
  | false =>
    have behind (values : Dict Value) := choice [.value (.map values) none]
    simp only [List.cons_append, List.nil_append] at behind
    simp [behind]

/-- A call of a helper does not depend on frames that show nothing. -/
theorem renderHelper_visible (helpers : renderer.helpers = Helper.builtins) (name : Identifier)
    (list : List Param) (main : Option Body) (bodies : Dict Body) (span : Span) :
    renderer.renderHelper render origin context.visible name list main bodies span =
      renderer.renderHelper render origin context name list main bodies span := by
  unfold renderHelper
  cases found : renderer.helpers.get? name.name with
  | none => rfl
  | some helper =>
    let call : Call := { renderer.params render origin context list with
      main, bodies, filters := renderer.filters }
    have runs : runHelper call.visible helper = runHelper call helper :=
      builtin_visible (fun frames => overlooks.behind origin frames context)
        (Dict.mem_of_get? (helpers ▸ found))
    exact congrArg (fun run => RenderM.gathered run >>= origin.noteOutcome span) runs

/-- An inclusion does not depend on frames that show nothing. -/
theorem renderInclusion_visible (target : Target) (way : Option Path) (list : List Param)
    (span : Span) :
    renderer.renderInclusion render origin context.visible target way list span =
      renderer.renderInclusion render origin context target way list span := by
  have named : targetName render origin context.visible target =
      targetName render origin context target := by
    cases target with
    | static _ => rfl
    | dynamic body => simp only [targetName, overlooks origin context body]
  have inside (origin : Origin) (value : Option Value) (values : Dict Value) (template : Template) :
      render origin (innerContext context.visible value values template) template.body =
        render origin (innerContext context value values template) template.body := by
    simp only [innerContext_eq, ← List.cons_append]
    exact overlooks.behind _ _ _ _
  have included (name : String) (template : Template) :
      renderer.renderIncluded render origin context.visible name template way list =
        renderer.renderIncluded render origin context name template way list := by
    simp only [renderIncluded, resolveAll_visible overlooks, Context.get?_visible, inside]
  have found (name : String) :
      renderer.renderFound render origin context.visible name way list span =
        renderer.renderFound render origin context name way list span := by
    funext found
    unfold renderFound
    split
    · rfl
    · rfl
    · exact included name _
  simp only [renderInclusion, named, found]

/-- A part does not depend on frames that show nothing. -/
theorem renderPart_visible (helpers : renderer.helpers = Helper.builtins) (part : Part) :
    renderer.renderPart render origin context.visible part =
      renderer.renderPart render origin context part := by
  cases part with
  | text | comment => rfl
  | reference path filters => simp only [renderPart, renderReference, Context.get?_visible]
  | element head list main bodies span =>
    cases head with
    | test kind key =>
      exact renderTest_visible overlooks origin context kind key list main bodies
    | helper name =>
      exact renderHelper_visible overlooks origin context helpers name list main bodies span
  | block name main =>
    simp only [renderPart, renderBlock, renderOptional, Context.block?_visible,
      overlooks origin context]
  | inclusion target way list span =>
    exact renderInclusion_visible overlooks origin context target way list span

omit overlooks

/-- Rendering a body does not depend on frames that show nothing. -/
theorem renderBody_overlooks (helpers : renderer.helpers = Helper.builtins) (bound : Nat) :
    BodyRender.Overlooks (renderer.renderBody bound) := by
  induction bound with
  | zero => exact fun _ _ _ => rfl
  | succ bound induction =>
    intro origin context body
    change renderer.renderParts _ origin context.visible body =
      renderer.renderParts _ origin context body
    induction body with
    | nil => rfl
    | cons part rest later =>
      simp only [renderParts, renderPart_visible induction origin context helpers part, later]

end Renderer

end Dust
