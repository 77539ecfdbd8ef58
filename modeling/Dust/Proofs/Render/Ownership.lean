import Dust.Proofs.Render.Site
import Dust.Proofs.Store.Compiled

/-!
# Where rendered bodies are written

Every body that is rendered is written in some template: the one that is rendered first or one that
may be loaded. This is the template that is being rendered, unless the body is in an inline partial
of another template that stands in place of a block.
-/

namespace Dust

/-- A body is another one, or it is nested in it at any depth, also in strings. -/
inductive Body.Within : Body → Body → Prop where
  /-- A body is itself. -/
  | self (body : Body) : Within body body
  /-- A string in a body is in it. -/
  | string {inner body outer : Body} {part : Part} (within : Within body outer) (mem : part ∈ body)
    (quotes : part.Quotes inner) : Within inner outer
  /-- A body of a part of a body is in it. -/
  | nested {inner body outer : Body} {part : Part} (within : Within body outer) (mem : part ∈ body)
    (nests : part.Nests inner) : Within inner outer

/-- A body is written in a template. -/
def Template.Holds (template : Template) (body : Body) : Prop :=
  Body.Within body template.body ∨ ∃ entry ∈ template.blocks, Body.Within body entry.2

section Demands

variable {demand : Demand}

/-- A string among parameters meets what the parameters meet. -/
theorem Quoted.meets {list : List Param} {body : Body} (quoted : Quoted list body)
    (meets : Part.ParamsMeet demand list) : Part.AllMeet demand body := by
  obtain ⟨⟨name, argument⟩, mem, rfl⟩ := quoted
  exact (Part.paramsMeet_iff.mp meets _ mem).2

/-- A string in a part meets what the part meets. -/
theorem Part.Quotes.meets {part : Part} {body : Body} (quotes : part.Quotes body)
    (meets : part.Meets demand) : Part.AllMeet demand body := by
  match part with
  | .element _ params _ _ _ =>
    obtain ⟨-, -, params, -⟩ := meets
    exact Quoted.meets quotes params
  | .inclusion target _ params _ =>
    obtain ⟨-, target, -, params, -⟩ := meets
    rcases quotes with rfl | quoted
    · exact target
    · exact quoted.meets params

/-- A body of a part meets what the part meets. -/
theorem Part.Nests.meets {part : Part} {body : Body} (nests : part.Nests body)
    (meets : part.Meets demand) : Part.AllMeet demand body := by
  match part with
  | .element _ _ main bodies _ =>
    obtain ⟨-, -, -, mainMeets, -, bodiesMeet, -⟩ := meets
    rcases nests with rfl | rfl | ⟨name, mem⟩
    · exact trivial
    · exact mainMeets
    · exact Part.bodiesMeet_iff.mp bodiesMeet _ mem
  | .block _ main =>
    obtain ⟨-, -, mainMeets⟩ := meets
    obtain rfl : main = some body := nests
    exact mainMeets

/-- A body in another one meets what the other one meets. -/
theorem Body.Within.meets {inner outer : Body} (within : Body.Within inner outer)
    (meets : Part.AllMeet demand outer) : Part.AllMeet demand inner := by
  induction within with
  | self => exact meets
  | string _ mem quotes induction =>
    exact quotes.meets (Part.allMeet_iff.mp (induction meets) _ mem)
  | nested _ mem nests induction =>
    exact nests.meets (Part.allMeet_iff.mp (induction meets) _ mem)

/-- A body that is written in a template meets what the template meets. -/
theorem Template.Holds.meets {template : Template} {body : Body} (holds : template.Holds body)
    (meets : template.Meets demand) : Part.AllMeet demand body := by
  rcases holds with inBody | ⟨entry, mem, inBlock⟩
  · exact inBody.meets meets.body
  · exact inBlock.meets (Part.bodiesMeet_iff.mp meets.blocks entry mem)

end Demands

/-- What is nested in a body that is written in a template is written in it. -/
theorem Template.Holds.inner {template : Template} {body inner : Body} (holds : template.Holds body)
    (within : ∀ outer, Body.Within body outer → Body.Within inner outer) :
    template.Holds inner :=
  holds.imp (within _) fun ⟨entry, mem, inBlock⟩ => ⟨entry, mem, within _ inBlock⟩

/-- The site of a template that is rendered by itself. -/
def Template.site (template : Template) : Site :=
  ⟨⟨template, 0⟩, [.blocks template.blocks], template.body⟩

namespace Site

variable (maxDepth : Nat) (loads : Loads) (start : Template)

/-- A template is rendered first or may be loaded. -/
def Knows (template : Template) : Prop :=
  template = start ∨ ∃ name base, loads name base template

/-- The body of a site is in an inline partial of a template, which is rendered in place of a block
while another template is rendered. -/
def Fills (site : Site) (owner : Template) : Prop :=
  owner ≠ site.origin.template ∧
    ∃ (outer : Site) (name : Identifier) (main : Option Body) (inline : Body),
      start.site.Reaches maxDepth loads outer ∧ outer.origin = site.origin ∧
        Part.block name main ∈ outer.body ∧ outer.context.block? name.name = some inline ∧
        (name.name, inline) ∈ owner.blocks ∧ Body.Within site.body inline

/-- The body of a site is written in a template. Another template is rendered only if the body is
rendered in place of a block. -/
structure IsWrittenIn (site : Site) (owner : Template) : Prop where
  /-- The template may be rendered. -/
  known : Knows loads start owner
  /-- The body is written in it. -/
  holds : owner.Holds site.body
  /-- It is rendered, or the body is in place of a block. -/
  place : owner = site.origin.template ∨ site.Fills maxDepth loads start owner

variable {maxDepth loads start}

/-- What is nested in the body of a site is written where the body is. -/
theorem IsWrittenIn.inner {site : Site} {owner : Template}
    (written : site.IsWrittenIn maxDepth loads start owner) {context : Context} {body : Body}
    (within : ∀ outer, Body.Within site.body outer → Body.Within body outer) :
    Site.IsWrittenIn maxDepth loads start ⟨site.origin, context, body⟩ owner where
  known := written.known
  holds := written.holds.inner within
  place := written.place.imp id fun ⟨other, outer, name, main, inline, reached, same, mem, found,
    entry, inside⟩ =>
      ⟨other, outer, name, main, inline, reached, same, mem, found, entry, within inline inside⟩

/-- The body of a template is written in it. -/
theorem isWrittenIn_ofTemplate {template : Template} (known : Knows loads start template)
    (depth : Nat) (context : Context) :
    Site.IsWrittenIn maxDepth loads start ⟨⟨template, depth⟩, context, template.body⟩ template where
  known := known
  holds := .inl (.self _)
  place := .inl rfl

/-- The inline partials around are those of templates that may be rendered. -/
def FramesKnown (loads : Loads) (start : Template) (site : Site) : Prop :=
  ∀ blocks, Frame.blocks blocks ∈ site.context →
    ∃ template, Knows loads start template ∧ template.blocks = blocks

/-- Plain frames hold no inline partials. -/
theorem FramesKnown.append {site : Site} (framed : site.FramesKnown loads start) {frames : Context}
    (plain : ∀ frame ∈ frames, frame.IsPlain) {blocks : Dict Body}
    (mem : Frame.blocks blocks ∈ frames ++ site.context) :
    ∃ template, Knows loads start template ∧ template.blocks = blocks := by
  rcases List.mem_append.mp mem with isNew | isOld
  · exact (plain _ isNew).elim
  · exact framed blocks isOld

/-- An inline partial that is rendered in place of a block is one of a template that may be
rendered. -/
theorem FramesKnown.override {site : Site} (framed : site.FramesKnown loads start) {name : String}
    {body : Body} (found : site.context.block? name = some body) :
    ∃ template, Knows loads start template ∧ (name, body) ∈ template.blocks := by
  obtain ⟨frame, mem, isBlock⟩ := List.exists_of_findSome?_eq_some found
  match frame with
  | .blocks blocks =>
    obtain ⟨template, known, rfl⟩ := framed blocks mem
    exact ⟨template, known, Dict.mem_of_get? isBlock⟩

/-- Every site that is rendered is written in a template that may be rendered, and so are the inline
partials around it. -/
theorem Reaches.exists_isWrittenIn {site : Site}
    (reached : start.site.Reaches maxDepth loads site) :
    (∃ owner, site.IsWrittenIn maxDepth loads start owner) ∧ site.FramesKnown loads start := by
  induction reached with
  | refl =>
    refine ⟨⟨start, isWrittenIn_ofTemplate (.inl rfl) _ _⟩, fun blocks mem => ?_⟩
    cases List.mem_singleton.mp mem
    exact ⟨start, .inl rfl, rfl⟩
  | @tail site next reached enters induction =>
    obtain ⟨⟨owner, written⟩, framed⟩ := induction
    cases enters with
    | string mem quotes =>
      exact ⟨⟨owner, written.inner fun _ within => within.string mem quotes⟩, framed⟩
    | nested frames mem nests plain =>
      exact ⟨⟨owner, written.inner fun _ within => within.nested mem nests⟩,
        fun _ => framed.append plain⟩
    | @override name main body mem found =>
      obtain ⟨template, known, entry⟩ := framed.override found
      refine ⟨⟨template, known, .inr ⟨_, entry, .self body⟩, ?_⟩, framed⟩
      by_cases same : template = site.origin.template
      · exact .inl same
      · exact .inr ⟨same, site, name, main, body, reached, rfl, mem, found, entry, .self body⟩
    | @included target way list span name template frames mem shallow named loaded plain =>
      have known : Knows loads start template := .inr ⟨_, _, loaded⟩
      refine ⟨⟨template, isWrittenIn_ofTemplate known _ _⟩, fun blocks mem => ?_⟩
      rcases List.mem_cons.mp mem with own | around
      · cases own
        exact ⟨template, known, rfl⟩
      · exact framed.append plain around

end Site

/-! ### Templates that may be loaded -/

/-- A store stays compiled while templates are loaded. -/
theorem Store.Evolves.isCompiled {sources : Sources} {store later : Store}
    (evolves : store.Evolves sources later) (compiled : store.IsCompiled) : later.IsCompiled := by
  induction evolves with
  | refl => exact compiled
  | tail _ loads induction =>
    obtain ⟨name, base, rfl⟩ := loads
    exact (Store.load_findsCompiled induction name base).store

/-- A template that may be rendered is compiled if the first one and those of the store are. -/
theorem Site.Knows.isCompiled {sources : Sources} {store : Store} {start template : Template}
    (known : Site.Knows (store.Loadable sources) start template) (compiled : store.IsCompiled)
    (startCompiled : start.IsCompiled) : template.IsCompiled := by
  rcases known with rfl | ⟨name, base, later, evolves, loaded⟩
  · exact startCompiled
  · exact (Store.load_findsCompiled (evolves.isCompiled compiled) name base).ok _ loaded _ rfl

end Dust
