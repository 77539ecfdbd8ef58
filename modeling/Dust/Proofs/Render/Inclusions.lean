import Dust.Proofs.Engine.HelpersUsed
import Dust.Proofs.Render.Clean
import Dust.Proofs.Render.Locating

/-!
# The limit on inclusions

Templates may include each other only so deep. Where an inclusion is refused an error is noted, and
no error is lost on the way to the output. So a render without an error has not met the limit, and
it is the same with any higher one. Beyond the limit nothing is rendered.
-/

namespace Dust

/-- Sites that are reached from a site within the limit on inclusions are within it. -/
theorem Site.Reaches.depth_le {maxDepth : Nat} {loads : Loads} {start site : Site}
    (within : start.origin.depth ≤ maxDepth) (reaches : start.Reaches maxDepth loads site) :
    site.origin.depth ≤ maxDepth := by
  induction reaches with
  | refl => exact within
  | tail _ entering induction =>
    cases entering with
    | included _ _ shallow => exact shallow
    | _ => exact induction

namespace Renderer

/-- A clean render of a body stays the same with a higher limit on inclusions. -/
theorem renderBody_of_higher_limit {renderer : Renderer}
    (helpers : renderer.helpers = Helper.builtins) {more : Nat} (le : renderer.maxDepth ≤ more)
    (bound : Nat) (site : Site) (aside : Option Error) :
    CleanAlike aside (renderer.renderBody bound site.origin site.context site.body)
      ({ renderer with maxDepth := more }.renderBody bound site.origin site.context site.body) := by
  have stays : Origin.Moves renderer { renderer with maxDepth := more } 0 id :=
    { inner := fun _ _ _ => rfl
      shallow := fun _ _ shallow => Nat.lt_of_lt_of_le shallow le
      loads := fun _ _ _ _ => rfl }
  exact renderBody_cleanAlike stays helpers (Nat.le_refl bound) (Nat.zero_le _) aside

/-- No body is rendered deeper than the limit on inclusions: whatever would be done with such
bodies, the render is the same. -/
theorem renderBody_eq_renderOnly {renderer : Renderer} {store : Store}
    (confined : Helper.AllConfined renderer.helpers) (elsewhere : BodyRender) (bound : Nat)
    {site : Site} (within : site.origin.depth ≤ renderer.maxDepth) :
    RunsAlike renderer.sources store
      (renderer.renderBody bound site.origin site.context site.body)
      (renderer.renderOnly (fun site => site.origin.depth ≤ renderer.maxDepth) elsewhere bound
        site.origin site.context site.body) :=
  renderBody_alike confined (fun _ _ _ => rfl)
    (fun _ _ reaches => if_pos (Site.Reaches.depth_le within reaches)) bound .refl

end Renderer

namespace EngineM

/-- If a template is rendered without an error, it is rendered to the same text without an error
when templates may include each other deeper. Nothing is ever rendered deeper than they may: the
answer is the same whatever would be done with bodies there. -/
theorem renderOutput_of_higher_limit (engine : Engine) (template : Template)
    (data globals : Value) (limit : Nat) (helpers : engine.helpers = Helper.builtins) :
    let answer (limit : Nat) :=
      ((renderOutput template { data, globals, maxDepth := some limit }).run engine).1
    (∀ text, answer limit = .ok { text } → ∀ higher, limit ≤ higher →
      answer higher = .ok { text }) ∧
    ∀ elsewhere,
      let input : RenderInput := { data, globals, maxDepth := some limit }
      answer limit = answerTo (((engine.renderer input).renderOnly
        (fun site => site.origin.depth ≤ limit) elsewhere engine.bound ⟨template, 0⟩
        [.blocks template.blocks] template.body).runFrom (engine.startState input)) := by
  intro answer
  refine ⟨fun text isClean higher le => ?_, fun elsewhere => ?_⟩
  · let input : RenderInput := { data, globals, maxDepth := some limit }
    obtain ⟨later, run, written⟩ := renderOutput_eq_ok isClean
    have clean : later.IsClean later.pending := ⟨by rw [written], rfl⟩
    have alike := @Renderer.renderBody_of_higher_limit (engine.renderer input) helpers higher le
      engine.bound template.site later.pending
    have same := (alike _ () later run clean).2
    change ((renderOutput template { data, globals, maxDepth := some higher }).run engine).1 = _
    rw [renderOutput_run]
    exact (congrArg answerTo same).trans (congrArg Except.ok written)
  · intro input
    have confined : Helper.AllConfined engine.helpers := helpers ▸ Helper.allConfined_builtins
    have alike := @Renderer.renderBody_eq_renderOnly (engine.renderer input) engine.store
      confined elsewhere engine.bound template.site (Nat.zero_le _)
    have same := (alike (engine.startState input) .refl).1
    change ((renderOutput template input).run engine).1 = _
    rw [renderOutput_run]
    exact congrArg answerTo same

end EngineM

/-- The template of this source includes another one. -/
def outermost : Template where
  source := "\x7b>middle/\x7d"
  body := [.inclusion (.static "middle") none [] ⟨0, 10⟩]
  blocks := []
  path := none

/-- The template of this source includes a text. -/
def middlemost : Template where
  source := "a \x7b>innermost/\x7d"
  body := [.text "a ", .inclusion (.static "innermost") none [] ⟨2, 15⟩]
  blocks := []
  path := none

/-- An engine with templates that include each other twice. -/
def inclusionChain : Engine :=
  engineOf [("middle", middlemost), ("innermost", ⟨"text", [.text "text"], [], none⟩)]

example : [outermost, middlemost].all (fun template =>
    (Template.compile .preserve template.source).toOption == some template) = true := by
  decide +kernel

/-- A template that includes others twice is rendered with a limit of two and of three. -/
theorem EngineM.renderOutput_of_higher_limit_chain :
    let answer (limit : Nat) :=
      ((renderOutput outermost { data := .null, maxDepth := some limit }).run inclusionChain).1
    answer 2 = .ok { text := "a text" } ∧ answer 3 = .ok { text := "a text" } := by
  have rendered : ((renderOutput outermost { data := .null, maxDepth := some 2 }).run
      inclusionChain).1 = .ok { text := "a text" } := by
    rfl
  obtain ⟨higher, -⟩ :=
    renderOutput_of_higher_limit inclusionChain outermost .null .null 2 rfl
  exact ⟨rendered, higher "a text" rendered 3 (by decide)⟩

example : ((EngineM.renderOutput outermost { data := .null, maxDepth := some 1 }).run
    inclusionChain).1.toOption.bind (·.error) ≠ none := by
  decide +kernel

end Dust
