import Dust.Helper.Builtin
import Dust.Proofs.Render.Law
import Dust.Render.Evaluate
import Dust.Syntax.Nested
import Mathlib.Logic.Relation

/-!
# Which bodies are rendered

Rendering a body renders other bodies: strings and bodies of its parts, inline partials of the
templates around it in place of its blocks, and the templates that it includes. A site is a body
with the template that is rendered and the frames around it. One site enters another if rendering
the first may render the second, whatever the data are; which templates may be loaded by which names
is a parameter.
-/

namespace Dust

/-- A body at the place where it is rendered. -/
structure Site where
  /-- The template that is rendered. -/
  origin : Origin
  /-- The frames around. -/
  context : Context
  /-- The body. -/
  body : Body

/-- Which templates may be loaded by a name, tried from a directory first. -/
abbrev Loads := String → Option FilePath → Template → Prop

/-- A store comes from another one by loading templates. -/
def Store.Evolves (sources : Sources) : Store → Store → Prop :=
  Relation.ReflTransGen fun store later =>
    ∃ name base, later = (store.load sources name base).2

/-- A template may be loaded by a name, now or after others have been loaded. -/
def Store.Loadable (sources : Sources) (store : Store) : Loads := fun name base template =>
  ∃ later, store.Evolves sources later ∧
    (later.load sources name base).1 = .ok (some template)

/-- A body is a string with tags in a part. -/
def Part.Quotes (part : Part) (body : Body) : Prop :=
  match part with
  | .element _ params _ _ _ => Quoted params body
  | .inclusion target _ params _ => target = .dynamic body ∨ Quoted params body
  | _ => False

/-- A body is one of the bodies of a part. A missing main body of a helper counts as empty. -/
def Part.Nests (part : Part) (body : Body) : Prop :=
  match part with
  | .element _ _ main bodies _ => body = [] ∨ main = some body ∨ ∃ name, (name, body) ∈ bodies
  | .block _ main => main = some body
  | _ => False

/-- An included template may have a name. A name that is rendered may be any. -/
def Target.MayName (target : Target) (name : String) : Prop :=
  match target with
  | .static written => name = written
  | .dynamic _ => True

/-- The context of an included template, before its inline partials are put around. -/
def includedFrames (value : Option Value) (params : Dict Value) : Context :=
  (if params.isEmpty then [] else [.value (.map params) none]) ++
    (value.map fun value => Frame.value value none).toList

/-- Rendering one site may render another one in the course of one of its parts. -/
inductive Site.Enters (maxDepth : Nat) (loads : Loads) : Site → Site → Prop where
  /-- A string with tags is rendered in place. -/
  | string {site : Site} {part : Part} {body : Body} (mem : part ∈ site.body)
    (quotes : part.Quotes body) : Enters maxDepth loads site { site with body }
  /-- A body of a part is rendered behind more frames. -/
  | nested {site : Site} {part : Part} {body : Body} (frames : Context) (mem : part ∈ site.body)
    (nests : part.Nests body) (plain : ∀ frame ∈ frames, frame.IsPlain) :
    Enters maxDepth loads site { site with context := frames ++ site.context, body }
  /-- An inline partial is rendered in place of a block. -/
  | override {site : Site} {name : Identifier} {main : Option Body} {body : Body}
    (mem : Part.block name main ∈ site.body) (found : site.context.block? name.name = some body) :
    Enters maxDepth loads site { site with body }
  /-- A template is included. -/
  | included {site : Site} {target : Target} {way : Option Path} {list : List Param} {span : Span}
    {name : String} {template : Template} (frames : Context)
    (mem : Part.inclusion target way list span ∈ site.body)
    (shallow : site.origin.depth < maxDepth) (named : target.MayName name)
    (loaded : loads name site.origin.template.directory? template)
    (plain : ∀ frame ∈ frames, frame.IsPlain) :
    Enters maxDepth loads site
      ⟨⟨template, site.origin.depth + 1⟩, .blocks template.blocks :: (frames ++ site.context),
        template.body⟩

/-- Rendering one site may render another one. -/
def Site.Reaches (maxDepth : Nat) (loads : Loads) : Site → Site → Prop :=
  Relation.ReflTransGen (Site.Enters maxDepth loads)

/-- All helpers that a site calls are among those that are always there. Names of no helper are
free. -/
def Site.CallsBuiltins (helpers : Dict Helper) (site : Site) : Prop :=
  ∀ part ∈ site.body, ∀ name, Template.helperName? part = some name →
    ∀ helper, helpers.get? name = some helper → ∃ known, (known, helper) ∈ Helper.builtins

/-- If there are no other helpers than those that are always there, no others are called. -/
theorem Site.callsBuiltins_of_helpers {helpers : Dict Helper} (same : helpers = Helper.builtins)
    (site : Site) : site.CallsBuiltins helpers := by
  intro part _ name _ helper found
  rw [same] at found
  exact ⟨name, Dict.mem_of_get? found⟩

/-- The frames of an included template are plain. -/
theorem includedFrames_plain (value : Option Value) (params : Dict Value) :
    ∀ frame ∈ includedFrames value params, frame.IsPlain := by
  intro frame mem
  unfold includedFrames at mem
  rcases List.mem_append.mp mem with mem | mem
  · split at mem
    · cases mem
    · cases List.mem_singleton.mp mem
      trivial
  · cases value with
    | none => cases mem
    | some value =>
      cases List.mem_singleton.mp mem
      trivial

/-- The context of an included template is the one around it behind plain frames and the inline
partials of the template. -/
theorem innerContext_eq (context : Context) (value : Option Value) (params : Dict Value)
    (template : Template) :
    Renderer.innerContext context value params template =
      .blocks template.blocks :: (includedFrames value params ++ context) := by
  unfold Renderer.innerContext includedFrames
  generalize params.isEmpty = empty
  cases value <;> cases empty <;> rfl

end Dust
