import Dust.Filter.Builtin
import Dust.Render.Params

/-!
# Helpers

A helper decides what becomes of the bodies of its tag. It is called with the parameters, the bodies
and the context of the tag. Some helpers write as they like, some have a value that is written, and
probes have a value that is reported before anything is rendered and write nothing.
-/

namespace Dust

/-- A call of a helper. -/
structure Call extends Params where
  /-- The main body, unless the tag closes itself. -/
  main : Option Body
  /-- The named bodies. -/
  bodies : Dict Body
  /-- The filters of the render. -/
  filters : FilterSet

/-- A step of a helper, which may give up for a reason. -/
abbrev HelperM := ExceptT RenderFault RenderM

/-- A helper. -/
inductive Helper where
  /-- A helper that writes as it likes. -/
  | block (run : Call → HelperM Unit)
  /-- A helper with a value that is written. -/
  | value (run : Call → HelperM Value)
  /-- A helper with a value that is reported. -/
  | probe (run : Call → RenderM Value)

namespace Call

/-- Renders a body in a context. -/
def renderIn (call : Call) (context : Context) (body : Body) : RenderM Unit :=
  call.render context body

/-- Renders the main body in a context. -/
def renderMainIn (call : Call) (context : Context) : RenderM Unit :=
  call.render context (call.main.getD [])

/-- Renders the main body. -/
def renderMain (call : Call) : RenderM Unit :=
  call.renderMainIn call.context

/-- The body of a name. The main body has a name too. -/
def body? (call : Call) (name : String) : Option Body :=
  if name = "block" then call.main else call.bodies.get? name

/-- Renders the body for the other case, if there is one. -/
def renderElse (call : Call) : RenderM Unit :=
  match call.body? "else" with
  | some body => call.render call.context body
  | none => return

/-- Writes a value as a reference without filters writes it. -/
def writeValue (call : Call) (value : Value) : RenderM Unit :=
  RenderM.write (call.filters.apply [] value).display

/-- The innermost value. -/
def current (call : Call) : RenderM Value := do
  return call.context.current (← call.scope)

end Call

end Dust
