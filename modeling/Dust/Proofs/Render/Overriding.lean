import Dust.Proofs.Render.Append
import Dust.Proofs.Render.Confined
import Dust.Syntax.Equality

/-!
# Blocks of included templates

A template that is included stands behind the templates that lead to it, and each of them may have
inline partials for the blocks of the others. Here a template is rendered once more with the chain
of these templates written down beside the frames. A block is looked for in the chain only, and
everything else is done as before. The result is the same, so whatever frames stand between the
inclusions, a block is what the innermost template of the chain says that has a say.
-/

namespace Dust

/-- The inline partial of a name in the first template of a chain that has one. -/
def nearestInline? (chain : List Template) (name : String) : Option Body :=
  chain.findSome? fun template => template.blocks.get? name

/-- A way to render bodies in a chain of included templates, innermost first. -/
abbrev ChainRender := List Template → BodyRender

/-- The bodies in the course of a part are rendered in the chain of the part, and the body of a
template that the part includes in the chain with this template before it. -/
def ChainRender.within (render : ChainRender) (chain : List Template) (depth : Nat) : BodyRender :=
  fun origin =>
    render (if origin.depth ≤ depth then chain else origin.template :: chain) origin

namespace Renderer

variable (renderer : Renderer) (render : ChainRender) (chain : List Template) (origin : Origin)
  (context : Context)

/-- Renders a part in a chain of templates. A block is the inline partial that is nearest in the
chain, or else what it holds, and it is rendered where it stands. -/
def chainedPart : Part → RenderM Unit
  | .block name main =>
    renderOptional (render chain) origin context ((nearestInline? chain name.name).or main)
  | part => renderer.renderPart (render.within chain origin.depth) origin context part

/-- Renders parts in a chain of templates in order. -/
def chainedParts : Body → RenderM Unit
  | [] => return
  | part :: rest => do
    renderer.chainedPart render chain origin context part
    chainedParts rest

/-- Renders bodies in a chain of templates that are nested in each other up to a bound. -/
def chainedBody (bound : Nat) : ChainRender := fun chain origin context body =>
  match bound with
  | 0 => throw .exhausted
  | bound + 1 => renderer.chainedParts (chainedBody bound) chain origin context body

/-- Renders a whole template, which is a chain of its own. -/
def chainedTemplate (bound : Nat) (template : Template) : RenderM Unit :=
  renderer.chainedBody bound [template] ⟨template, 0⟩ [.blocks template.blocks] template.body

end Renderer

/-! ### Chains and frames -/

/-- The inline partials in a frame. -/
def Frame.blocks? : Frame → Option (Dict Body)
  | .blocks definitions => some definitions
  | _ => none

/-- The inline partials in the frames are those of the templates of a chain. -/
def Context.ShowsChain (context : Context) (chain : List Template) : Prop :=
  context.filterMap Frame.blocks? = chain.map Template.blocks

namespace Context

variable {context : Context} {chain : List Template}

/-- An inline partial is looked for in the inline partials of the frames. -/
theorem block?_eq (context : Context) (name : String) :
    context.block? name = (context.filterMap Frame.blocks?).findSome? (Dict.get? · name) := by
  induction context with
  | nil => rfl
  | cons frame outer induction =>
    rw [block?] at induction ⊢
    cases frame with
    | blocks definitions =>
      simp only [List.filterMap_cons, Frame.blocks?, List.findSome?_cons, Frame.block?, induction]
    | value | selection =>
      simp only [List.filterMap_cons, Frame.blocks?, List.findSome?_cons, Frame.block?, induction]

/-- The nearest inline partial of a chain is the one that is found in the frames. -/
theorem ShowsChain.block? (shows : context.ShowsChain chain) (name : String) :
    context.block? name = nearestInline? chain name := by
  rw [block?_eq, shows, List.findSome?_map]
  rfl

/-- Plain frames hold no inline partials. -/
theorem filterMap_blocks?_of_plain {frames : Context} (plain : ∀ frame ∈ frames, frame.IsPlain) :
    frames.filterMap Frame.blocks? = [] := by
  refine List.filterMap_eq_nil_iff.mpr fun frame mem => ?_
  cases frame with
  | blocks definitions => exact (plain _ mem).elim
  | value | selection => rfl

/-- Plain frames leave the chain. -/
theorem ShowsChain.behind (shows : context.ShowsChain chain) {frames : Context}
    (plain : ∀ frame ∈ frames, frame.IsPlain) : ShowsChain (frames ++ context) chain := by
  rw [ShowsChain, List.filterMap_append, filterMap_blocks?_of_plain plain]
  exact shows

/-- The inline partials of a template stand for it in the chain. -/
theorem ShowsChain.included (shows : context.ShowsChain chain) (template : Template) :
    ShowsChain (.blocks template.blocks :: context) (template :: chain) :=
  congrArg (template.blocks :: ·) shows

end Context

/-! ### Rendering -/

namespace Renderer

variable {renderer : Renderer} {chain : List Template} {context : Context}

/-- The frames lead to the same bodies as the chain that they show. -/
theorem chainedPart_eq (shows : context.ShowsChain chain) (render : ChainRender) (origin : Origin)
    (part : Part) :
    renderer.chainedPart render chain origin context part =
      renderer.renderPart (render.within chain origin.depth) origin context part := by
  cases part with
  | block name main =>
    have inside : render.within chain origin.depth origin = render chain origin := by
      rw [ChainRender.within, if_pos (Nat.le_refl _)]
    simp only [chainedPart, renderPart, renderBlock, renderOptional, inside, shows.block?]
  | _ => rfl

/-- Parts are rendered in a chain as they are with the frames that show it. -/
theorem chainedParts_eq (shows : context.ShowsChain chain) (render : ChainRender) (origin : Origin)
    (body : Body) :
    renderer.chainedParts render chain origin context body =
      renderer.renderParts (render.within chain origin.depth) origin context body := by
  induction body with
  | nil => rfl
  | cons part rest induction =>
    rw [chainedParts, renderParts, chainedPart_eq shows, induction]

/-- If rendering bodies in chains that the frames show does the same as rendering them, so it does
for the bodies that a site enters. -/
theorem within_alike {render : BodyRender} {render' : ChainRender} {store : Store}
    {site inner : Site}
    (alike : ∀ (site : Site) chain, site.context.ShowsChain chain →
      RunsAlike renderer.sources store (render site.origin site.context site.body)
        (render' chain site.origin site.context site.body))
    (shows : site.context.ShowsChain chain)
    (enters : site.Enters renderer.maxDepth (store.Loadable renderer.sources) inner) :
    RunsAlike renderer.sources store (render inner.origin inner.context inner.body)
      (render'.within chain site.origin.depth inner.origin inner.context inner.body) := by
  unfold ChainRender.within
  cases enters with
  | string mem quotes =>
    rw [if_pos (Nat.le_refl _)]
    exact alike { site with body := _ } chain shows
  | nested frames mem nests plain =>
    rw [if_pos (Nat.le_refl _)]
    exact alike { site with context := frames ++ site.context, body := _ } chain
      (shows.behind plain)
  | override mem found =>
    rw [if_pos (Nat.le_refl _)]
    exact alike { site with body := _ } chain shows
  | included frames mem shallow named loaded plain =>
    rename_i name template
    rw [if_neg (Nat.not_succ_le_self _)]
    exact alike ⟨⟨template, site.origin.depth + 1⟩, _, template.body⟩ _
      ((shows.behind plain).included template)

/-- Bodies are rendered in a chain as they are with the frames that show it. -/
theorem chainedBody_alike (confined : Helper.AllConfined renderer.helpers) (store : Store)
    (bound : Nat) (site : Site) (chain : List Template) (shows : site.context.ShowsChain chain) :
    RunsAlike renderer.sources store
      (renderer.renderBody bound site.origin site.context site.body)
      (renderer.chainedBody bound chain site.origin site.context site.body) := by
  induction bound generalizing site chain with
  | zero => exact .self fun _ => rfl
  | succ bound induction =>
    rw [chainedBody, chainedParts_eq shows]
    exact renderParts_alike confined fun inner enters => within_alike induction shows enters

/-- A block is the inline partial of its name in the innermost of the templates that lead to it,
from the one that is rendered to the one that is included last, or else what it holds. It is
rendered where it stands. So a render does the same when its blocks are looked for in the chain of
templates alone, whatever frames are put between them. -/
theorem renderTemplate_nearest (renderer : Renderer)
    (confined : Helper.AllConfined renderer.helpers) (bound : Nat) (template : Template)
    (state : RenderState) :
    (renderer.renderTemplate bound template).runFrom state =
      (renderer.chainedTemplate bound template).runFrom state := by
  have alike := chainedBody_alike confined state.store bound
    ⟨⟨template, 0⟩, [.blocks template.blocks], template.body⟩ [template] rfl
  exact (alike state .refl).1

/-- A template with inline partials that includes another one. -/
def cover : Template where
  source := "\x7b<x\x7dR\x7b/x\x7d\x7b<y\x7dY\x7b$idx\x7d\x7b/y\x7d\x7b>list/\x7d"
  body := [.inclusion (.static "list") none [] ⟨24, 32⟩]
  blocks :=
    [("x", [.text "R"]),
      ("y", [.text "Y", .reference ⟨.relative, [.name "$idx"], ⟨15, 19⟩⟩ [] ⟨14, 20⟩])]
  path := none

/-- A template that includes another one with a parameter for every item of a list. -/
def listing : Template where
  source := "\x7b<x\x7dA\x7b/x\x7d\x7b#l\x7d\x7b>row k=1/\x7d\x7b/l\x7d"
  body :=
    [.element (.test .iterate ⟨.relative, [.name "l"], ⟨11, 12⟩⟩) []
      (some [.inclusion (.static "row") none
        [⟨⟨"k", ⟨19, 20⟩⟩, .literal (.integer 1)⟩] ⟨13, 24⟩]) [] ⟨9, 28⟩]
  blocks := [("x", [.text "A"])]
  path := none

/-- A template with blocks. -/
def row : Template where
  source := "\x7b+x\x7d\x7b/x\x7d\x7b+y\x7dy\x7b/y\x7d\x7b+z\x7dz\x7b/z\x7d\x7b+w/\x7d"
  body :=
    [.block ⟨"x", ⟨2, 3⟩⟩ (some []), .block ⟨"y", ⟨10, 11⟩⟩ (some [.text "y"]),
      .block ⟨"z", ⟨19, 20⟩⟩ (some [.text "z"]), .block ⟨"w", ⟨28, 29⟩⟩ none]
  blocks := []
  path := none

example : ([cover, listing, row].map fun template =>
    (Template.compile .preserve template.source).toOption == some template) =
      [true, true, true] := by
  decide +kernel

/-- Blocks are taken from the templates around, also behind the frames of a list and of
parameters. -/
theorem renderTemplate_nearest_row :
    let state : RenderState :=
      { root := .map [("l", .list [.null, .null])]
        store := { templates := [("list", listing), ("row", row)] } }
    let renderer : Renderer := { builtinRenderer with maxDepth := 2 }
    Helper.AllConfined renderer.helpers ∧
      ((renderer.renderTemplate 8 cover).runFrom state).2.output = { text := "AY0zAY1z" } := by
  intro state renderer
  have confined : Helper.AllConfined renderer.helpers := Helper.allConfined_builtins
  refine ⟨confined, ?_⟩
  rw [renderTemplate_nearest renderer confined]
  rfl

end Renderer

end Dust
