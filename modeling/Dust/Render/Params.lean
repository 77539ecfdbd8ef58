import Dust.Render.State

/-!
# Parameters

The values of parameters are found when they are asked for: literals as they stand, paths in the
context of the tag, and strings with tags by rendering them. What is wrong in such a string is kept
aside, and the tag notes it when it is done with its parameters.
-/

namespace Dust

/-- The value of a literal. -/
def Literal.toValue : Literal → Value
  | string text => .string text
  | integer n => .integer n
  | float x => .float x

/-- The parameters of a tag with what is needed to find their values. -/
structure Params where
  /-- The parameters as written. -/
  list : List Param
  /-- The context of the tag. -/
  context : Context
  /-- The globals of the render. -/
  globals : Value
  /-- Renders a body of the template that the tag is in. -/
  render : Context → Body → RenderM Unit

namespace Params

/-- The values around all frames. -/
def scope (params : Params) : RenderM Scope := do
  return ⟨(← get).root, params.globals⟩

/-- Finds the value of a parameter, if there is one. -/
def resolve (params : Params) : Argument → RenderM (Option Value)
  | .literal literal => return some literal.toValue
  | .path path => return params.context.get? (← params.scope) path
  | .interpolated body => return some (← RenderM.quoted (params.render params.context body))

/-- The last parameter of a name. -/
def find? (params : Params) (name : String) : Option Argument :=
  (params.list.reverse.find? fun param => param.name.name = name).map Param.argument

/-- Whether there is a parameter of a name. -/
def has (params : Params) (name : String) : Bool :=
  (params.find? name).isSome

/-- Whether a parameter is a string without tags. -/
def isLiteralText (params : Params) (name : String) : Bool :=
  match params.find? name with
  | some (.literal (.string _)) => true
  | _ => false

/-- The names of the parameters in the order they are written. -/
def names (params : Params) : List String :=
  params.list.map fun param => param.name.name

/-- Finds the value of the parameter of a name. -/
def get? (params : Params) (name : String) : RenderM (Option Value) :=
  match params.find? name with
  | some argument => params.resolve argument
  | none => return none

/-- Finds what is written of the value of the parameter of a name. -/
def getText? (params : Params) (name : String) : RenderM (Option String) := do
  match ← params.get? name with
  | none => return none
  | some .null => return none
  | some value => return some value.display

/-- Finds the values of parameters in order, and adds them to a dictionary. -/
def resolveInto (params : Params) (entries : Dict Value) : List Param → RenderM (Dict Value)
  | [] => return entries
  | param :: rest => do
    match ← params.resolve param.argument with
    | some value => params.resolveInto (entries.insert param.name.name value) rest
    | none => params.resolveInto entries rest

/-- Finds the values of all parameters. Of several with one name the last that has a value
stays. -/
def resolveAll (params : Params) : RenderM (Dict Value) :=
  params.resolveInto [] params.list

end Params

end Dust
