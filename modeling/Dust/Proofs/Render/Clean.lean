import Dust.Proofs.Render.EvaluateLaw
import Dust.Proofs.Render.Run

/-!
# Clean renders

A render is clean if it ends with a text and no error. No step takes an error back, so nothing in a
clean render raises one, and what would be rendered in place of an error makes no difference to it.
In particular the limit on inclusions may be raised, and the origin of bodies may be changed as far
as it is only told in errors: the render stays the same.
-/

namespace Dust

/-- No error has been written, and the error that has been set aside is a given one, if any. -/
structure RenderState.IsClean (aside : Option Error) (state : RenderState) : Prop where
  /-- No error has been written. -/
  written : state.output.error = none
  /-- The error that has been set aside. -/
  pending : state.pending = aside

/-- If a step ends in a clean state, it has started from one, and another step ends the same way. -/
def CleanAlike (aside : Option Error) : StepRel := fun step step' =>
  ∀ state value later, step.runFrom state = (.ok value, later) → later.IsClean aside →
    state.IsClean aside ∧ step'.runFrom state = (.ok value, later)

namespace CleanAlike

variable {aside : Option Error} {α β : Type}

/-- A step that keeps what has been written and set aside ends as it does. -/
theorem self {step : RenderM α}
    (kept : ∀ state, (step.runFrom state).2.output.error = state.output.error ∧
      (step.runFrom state).2.pending = state.pending) : CleanAlike aside step step := by
  intro state value later ends clean
  obtain ⟨written, pending⟩ := kept state
  rw [ends] at written pending
  exact ⟨⟨written.symm.trans clean.written, pending.symm.trans clean.pending⟩, ends⟩

/-- Steps in a row end alike if each of them does. -/
theorem bind {first first' : RenderM α} {next next' : α → RenderM β}
    (alike : CleanAlike aside first first')
    (after : ∀ value, CleanAlike aside (next value) (next' value)) :
    CleanAlike aside (first >>= next) (first' >>= next') := by
  intro state value later ends clean
  obtain ⟨between, middle, firstEnds, nextEnds⟩ := RenderM.runFrom_bind_ok ends
  obtain ⟨cleanMiddle, sameNext⟩ := after between middle value later nextEnds clean
  obtain ⟨cleanStart, sameFirst⟩ := alike state between middle firstEnds cleanMiddle
  refine ⟨cleanStart, ?_⟩
  rw [RenderM.runFrom_bind, sameFirst]
  exact sameNext

/-- A body with an output of its own ends alike, if its errors are shown or set aside. -/
theorem apart {wrapped wrapped' : RenderM α} {step step' : RenderM Unit} {value : Output → α}
    {shown : Output → Output} {sets : Output → Option Error}
    (runs : RenderM.RunsApart wrapped step value shown sets)
    (runs' : RenderM.RunsApart wrapped' step' value shown sets)
    (surfaces : ∀ own pending, (shown own).error = none → Option.or pending (sets own) = aside →
      own.error = none ∧ pending = aside)
    (alike : CleanAlike aside step step') : CleanAlike aside wrapped wrapped' := by
  intro state result later ends clean
  obtain ⟨inner, run, rfl, rfl⟩ := runs.ok ends
  obtain ⟨before, isShown⟩ := Option.or_eq_none_iff.mp clean.written
  obtain ⟨written, pending⟩ := surfaces inner.output inner.pending isShown clean.pending
  obtain ⟨cleanStart, same⟩ := alike _ () inner run ⟨written, pending⟩
  refine ⟨⟨before, cleanStart.pending⟩, ?_⟩
  rw [runs', same]

/-- Steps end alike while errors are gathered: what has been set aside before is put back. -/
theorem gathered {step step' : RenderM α} (alike : CleanAlike none step step') :
    CleanAlike aside (RenderM.gathered step) (RenderM.gathered step') := by
  intro state value later ends clean
  obtain ⟨inner, run, rfl⟩ := RenderM.runFrom_gathered_ok ends
  obtain ⟨written, pending⟩ := Option.or_eq_none_iff.mp clean.written
  obtain ⟨cleanStart, same⟩ := alike _ value inner run ⟨written, pending⟩
  refine ⟨⟨cleanStart.written, clean.pending⟩, ?_⟩
  rw [RenderM.runFrom_gathered, same]

/-- The elementary steps of helpers end alike. -/
theorem stepLaw (aside : Option Error) : StepLaw (CleanAlike aside) where
  pure _ := self fun _ => ⟨rfl, rfl⟩
  bind := .bind
  overflow := self fun _ => ⟨rfl, rfl⟩
  read _ := self fun _ => ⟨rfl, rfl⟩
  change _ := self fun _ => ⟨rfl, rfl⟩
  write _ := self fun _ => by simp

/-- A string ends alike if no error is set aside in the end. -/
theorem quoted {step step' : RenderM Unit} (alike : CleanAlike none step step') :
    CleanAlike none (RenderM.quoted step) (RenderM.quoted step') :=
  alike.apart (RenderM.quoted_runsApart _) (RenderM.quoted_runsApart _)
    fun _ _ _ isAside => (Option.or_eq_none_iff.mp isAside).symm

/-- In place of an error anything may be done. -/
theorem raise (origin : Origin) (error : Error) (span : Span) (step' : RenderM Unit) :
    CleanAlike aside (origin.noteError error span) step' := by
  intro state value later ends clean
  simp only [Origin.noteError, RenderM.runFrom_noteError, Prod.mk.injEq] at ends
  obtain ⟨-, rfl⟩ := ends
  cases (Option.or_eq_none_iff.mp clean.written).2

/-- All steps of the evaluator end alike, whatever has been set aside around them. While the values
of parameters are found, nothing may be set aside. -/
theorem renderLaw (sources : Sources) :
    RenderLaw sources (fun _ _ _ => True)
      (fun step step' => ∀ aside, CleanAlike aside step step') (CleanAlike none)
      (fun step step' => ∀ aside, CleanAlike aside step step') where
  pure result aside := (stepLaw aside).pure result
  bind first after aside := (first aside).bind fun value => after value aside
  overflow aside := (stepLaw aside).overflow
  read view aside := (stepLaw aside).read view
  change edit aside := (stepLaw aside).change edit
  write text aside := (stepLaw aside).write text
  quiet := stepLaw none
  quoted alike := (alike none).quoted
  gathered alike _ := alike.gathered
  named alike aside :=
    (alike aside).apart (RenderM.named_runsApart _) (RenderM.named_runsApart _)
      fun own pending isShown isAside => ⟨isShown, by rwa [Option.or_none] at isAside⟩
  included alike aside :=
    (alike aside).apart (RenderM.included_runsApart _ _) (RenderM.included_runsApart _ _)
      fun own pending isShown isAside =>
        ⟨Option.map_eq_none_iff.mp isShown, by rwa [Option.or_none] at isAside⟩
  whole := id
  after first after aside := (first aside).bind fun value => after value aside
  loaded after aside := (self fun _ => ⟨rfl, rfl⟩).bind fun result =>
    after result (fun _ _ => trivial) aside
  raise origin error span _ := raise origin error span _
  raiseWrite origin error span text aside :=
    (raise origin error span _).bind fun _ => (stepLaw aside).write text

/-- Rendering bodies and strings of a call ends alike in the course of a helper. -/
theorem callLaw :
    CallLaw (fun step step' => ∀ aside, CleanAlike aside step step') (CleanAlike none) :=
  { stepLaw none with
    body := fun alike => alike none
    quoted := fun alike => (alike none).quoted }

end CleanAlike

/-- What is rendered in the course of a site is included as deep as the site or deeper. -/
theorem Site.Enters.depth_le {maxDepth : Nat} {loads : Loads} {site inner : Site}
    (entering : site.Enters maxDepth loads inner) : site.origin.depth ≤ inner.origin.depth := by
  cases entering with
  | included => exact Nat.le_succ _
  | _ => exact Nat.le_refl _

/-- The origins of bodies are changed from a depth on. Templates that are included stay in the same
place of each other, none of them is too deep after the change if it was not before, and names lead
to the same templates. -/
structure Origin.Moves (renderer renderer' : Renderer) (least : Nat) (move : Origin → Origin) :
    Prop where
  /-- An included template is one deeper than the one around it. -/
  inner : ∀ origin template, least ≤ origin.depth →
    move ⟨template, origin.depth + 1⟩ = ⟨template, (move origin).depth + 1⟩
  /-- Nothing gets too deep. -/
  shallow : ∀ origin, least ≤ origin.depth → origin.depth < renderer.maxDepth →
    (move origin).depth < renderer'.maxDepth
  /-- Names lead to the same. -/
  loads : ∀ origin store name, least ≤ origin.depth →
    Store.load renderer.sources store name (move origin).template.directory? =
      Store.load renderer.sources store name origin.template.directory?

namespace Renderer

/-- Rendering a body for the items of a list depends on how bodies are rendered in one place. -/
theorem renderItems_moved (render : BodyRender) (move : Origin → Origin) (origin : Origin)
    (context : Context) (length : Nat) (body : Body) (index : Nat) (items : List Value) :
    renderItems (fun origin => render (move origin)) origin context length body index items =
      renderItems render (move origin) context length body index items := by
  induction items generalizing index with
  | nil => rfl
  | cons item rest induction => simp only [renderItems, induction]

/-- Rendering a section depends on how bodies are rendered in one place only. -/
theorem renderTest_moved (renderer : Renderer) (more : Nat) (render : BodyRender)
    (move : Origin → Origin) (origin : Origin) (context : Context) (kind : SectionKind) (key : Path)
    (list : List Param) (main : Option Body) (bodies : Dict Body) :
    renderer.renderTest (fun origin => render (move origin)) origin context kind key list main
        bodies =
      { renderer with maxDepth := more }.renderTest render (move origin) context kind key list main
        bodies := by
  have choice (context : Context) (value : Option Value) :
      renderChoice (fun origin => render (move origin)) origin context kind value main bodies =
        renderChoice render (move origin) context kind value main bodies := by
    simp only [renderChoice, renderFor, renderItems_moved]
    rfl
  simp only [renderTest, choice]
  rfl

variable {renderer : Renderer} {more least : Nat} {move : Origin → Origin}
  (moves : Origin.Moves renderer { renderer with maxDepth := more } least move)

section Parts

variable {render render' : BodyRender} {site : Site} (deep : least ≤ site.origin.depth)
  (entered : ∀ inner, site.Enters renderer.maxDepth (fun _ _ _ => True) inner →
    ∀ aside, CleanAlike aside (render inner.origin inner.context inner.body)
      (render' (move inner.origin) inner.context inner.body))

include entered

/-- A clean call of a helper stays the same in another place. -/
theorem renderHelper_cleanAlike {name : Identifier} {list : List Param} {main : Option Body}
    {bodies : Dict Body} {span : Span}
    (mem : Part.element (.helper name) list main bodies span ∈ site.body)
    (builtin : site.CallsBuiltins renderer.helpers) (aside : Option Error) :
    CleanAlike aside
      (renderer.renderHelper render site.origin site.context name list main bodies span)
      ({ renderer with maxDepth := more }.renderHelper render' (move site.origin) site.context name
        list main bodies span) := by
  let moved : BodyRender := fun origin => render' (move origin)
  unfold renderHelper
  dsimp only
  cases found : renderer.helpers.get? name.name with
  | none => exact .raise _ _ _ _
  | some helper =>
    obtain ⟨known, isBuiltin⟩ := builtin _ mem name.name rfl helper found
    have runs := @CleanAlike.callLaw.runHelper _ _ renderer _ render moved site entered name list
      main bodies span known helper mem isBuiltin
    refine .bind runs.gathered fun result => ?_
    cases result with
    | ok _ => exact (CleanAlike.stepLaw aside).pure ()
    | error fault => exact .raise _ _ _ _

include moves deep

/-- A clean inclusion of a template stays the same in another place. -/
theorem renderIncluded_cleanAlike {target : Target} {way : Option Path} {list : List Param}
    {span : Span} {name : String} (template : Template)
    (mem : Part.inclusion target way list span ∈ site.body)
    (shallow : site.origin.depth < renderer.maxDepth) (named : target.MayName name)
    (aside : Option Error) :
    CleanAlike aside
      (renderer.renderIncluded render site.origin site.context name template way list)
      ({ renderer with maxDepth := more }.renderIncluded render' (move site.origin) site.context
        name template way list) := by
  let moved : BodyRender := fun origin => render' (move origin)
  have law := CleanAlike.renderLaw renderer.sources
  have alike : ∀ aside, CleanAlike aside
      (renderer.renderIncluded render site.origin site.context name template way list)
      (renderer.renderIncluded moved site.origin site.context name template way list) :=
    law.renderIncluded entered law.looks mem shallow named trivial
  have same : renderer.renderIncluded moved site.origin site.context name template way list =
      { renderer with maxDepth := more }.renderIncluded render' (move site.origin) site.context
        name template way list := by
    simp only [renderIncluded, moved, moves.inner _ _ deep]
    rfl
  rw [← same]
  exact alike aside

/-- A clean inclusion stays the same in another place. -/
theorem renderInclusion_cleanAlike {target : Target} {way : Option Path} {list : List Param}
    {span : Span} (mem : Part.inclusion target way list span ∈ site.body) (aside : Option Error) :
    CleanAlike aside
      (renderer.renderInclusion render site.origin site.context target way list span)
      ({ renderer with maxDepth := more }.renderInclusion render' (move site.origin) site.context
        target way list span) := by
  unfold renderInclusion
  by_cases tooDeep : renderer.maxDepth ≤ site.origin.depth
  · rw [if_pos tooDeep]
    exact .raise _ _ _ _
  · have shallow : site.origin.depth < renderer.maxDepth := Nat.lt_of_not_le tooDeep
    rw [if_neg tooDeep, if_neg (Nat.not_le_of_lt (moves.shallow site.origin deep shallow))]
    simp only [moves.loads _ _ _ deep]
    have ofName (name : String) (named : target.MayName name) :
        CleanAlike aside
          (RenderM.withStore (fun store =>
              store.load renderer.sources name site.origin.template.directory?) >>=
            renderer.renderFound render site.origin site.context name way list span)
          (RenderM.withStore (fun store =>
              store.load renderer.sources name site.origin.template.directory?) >>=
            { renderer with maxDepth := more }.renderFound render' (move site.origin) site.context
              name way list span) := by
      refine .bind (.self fun _ => ⟨rfl, rfl⟩) fun found => ?_
      unfold renderFound
      split
      · exact .raise _ _ _ _
      · exact (CleanAlike.stepLaw aside).pure ()
      · exact renderIncluded_cleanAlike moves deep entered _ mem shallow named aside
    cases target with
    | static name => exact ofName name rfl
    | dynamic body =>
      have alike := entered _ (.string mem (.inl rfl))
      have named := (CleanAlike.renderLaw renderer.sources).named alike aside
      exact .bind named fun name => ofName name trivial

/-- A clean part stays the same in another place. -/
theorem renderPart_cleanAlike {part : Part} (mem : part ∈ site.body)
    (builtin : site.CallsBuiltins renderer.helpers) (aside : Option Error) :
    CleanAlike aside (renderer.renderPart render site.origin site.context part)
      ({ renderer with maxDepth := more }.renderPart render' (move site.origin) site.context
        part) := by
  let moved : BodyRender := fun origin => render' (move origin)
  have law := CleanAlike.renderLaw renderer.sources
  match part with
  | .text content => exact law.write content aside
  | .comment _ => exact law.pure () aside
  | .reference path filters _ =>
    refine .bind (law.scope aside) fun scope => ?_
    split
    · exact law.pure () aside
    · cases renderer.filters.unknown? filters with
      | none => exact law.write _ aside
      | some filter => exact .bind (.raise _ _ _ _) fun _ => law.write _ aside
  | .element (.test kind key) list main bodies _ =>
    have alike : ∀ aside, CleanAlike aside
        (renderer.renderTest render site.origin site.context kind key list main bodies)
        (renderer.renderTest moved site.origin site.context kind key list main bodies) :=
      law.renderTest entered law.looks mem
    rw [renderTest_moved renderer more render' move] at alike
    exact alike aside
  | .element (.helper name) list main bodies span =>
    exact renderHelper_cleanAlike entered mem builtin aside
  | .block name main =>
    have alike : ∀ aside, CleanAlike aside
        (renderBlock render site.origin site.context name main)
        (renderBlock moved site.origin site.context name main) :=
      law.renderBlock entered mem
    exact alike aside
  | .inclusion target way list span =>
    exact renderInclusion_cleanAlike moves deep entered mem aside

/-- Clean parts stay the same in another place. -/
theorem renderParts_cleanAlike (builtin : site.CallsBuiltins renderer.helpers)
    (aside : Option Error) :
    CleanAlike aside (renderer.renderParts render site.origin site.context site.body)
      ({ renderer with maxDepth := more }.renderParts render' (move site.origin) site.context
        site.body) := by
  exact (CleanAlike.stepLaw aside).partByPart fun part mem =>
    renderPart_cleanAlike moves deep entered mem builtin aside

end Parts

include moves

/-- A clean render of a body stays the same in another place, with another limit on inclusions and
a higher bound of the evaluation. -/
theorem renderBody_cleanAlike (helpers : renderer.helpers = Helper.builtins) {bound higher : Nat}
    (le : bound ≤ higher) {site : Site}
    (deep : least ≤ site.origin.depth) (aside : Option Error) :
    CleanAlike aside (renderer.renderBody bound site.origin site.context site.body)
      ({ renderer with maxDepth := more }.renderBody higher (move site.origin) site.context
        site.body) := by
  induction bound generalizing higher site aside with
  | zero => exact fun state value later ends => by cases ends
  | succ bound induction =>
    obtain ⟨higher, rfl⟩ := Nat.exists_eq_add_of_le' (Nat.lt_of_lt_of_le (Nat.succ_pos bound) le)
    refine renderParts_cleanAlike moves deep (fun inner entering => ?_)
      (site.callsBuiltins_of_helpers helpers) aside
    exact induction (Nat.le_of_succ_le_succ le) (Nat.le_trans deep entering.depth_le)

end Renderer

end Dust
