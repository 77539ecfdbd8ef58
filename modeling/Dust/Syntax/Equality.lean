import Dust.Files.Path
import Dust.Syntax.Tree

/-!
# Equality of templates

Templates are equal if they are written in the same way: their trees with all places in the source,
the sources themselves, and the files they are read from. Files are compared by the components of
their paths, and doubles by their values.
-/

namespace Dust

namespace Path

mutual

/-- Whether two paths are equal. -/
def beq : Path → Path → Bool
  | ⟨anchor, keys, span⟩, ⟨otherAnchor, otherKeys, otherSpan⟩ =>
    anchor == otherAnchor && beqKeys keys otherKeys && span == otherSpan

/-- Whether two keys are equal. -/
def beqKey : Key → Key → Bool
  | .name a, .name b => a == b
  | .index i, .index j => i == j
  | .path p, .path q => beq p q
  | _, _ => false

/-- Whether two lists of keys are equal. -/
def beqKeys : List Key → List Key → Bool
  | [], [] => true
  | key :: keys, other :: others => beqKey key other && beqKeys keys others
  | _, _ => false

end

end Path

instance : BEq Path := ⟨Path.beq⟩

/-- Whether two literals are equal. -/
def Literal.beq : Literal → Literal → Bool
  | .string a, .string b => a == b
  | .integer m, .integer n => m == n
  | .float x, .float y => x == y
  | _, _ => false

instance : BEq Literal := ⟨Literal.beq⟩

/-- Whether two heads are equal. -/
def Head.beq : Head → Head → Bool
  | .test kind key, .test other otherKey => kind == other && key == otherKey
  | .helper name, .helper other => name == other
  | _, _ => false

instance : BEq Head := ⟨Head.beq⟩

namespace Part

mutual

/-- Whether two parts are equal. -/
def beq : Part → Part → Bool
  | .text a, .text b => a == b
  | .comment a, .comment b => a == b
  | .reference path filters span, .reference otherPath otherFilters otherSpan =>
    path == otherPath && filters == otherFilters && span == otherSpan
  | .element head params main bodies span, .element otherHead otherParams otherMain otherBodies
      otherSpan =>
    head == otherHead && beqParams params otherParams && beqMain main otherMain &&
      beqBodies bodies otherBodies && span == otherSpan
  | .block name main, .block other otherMain => name == other && beqMain main otherMain
  | .inclusion target context params span, .inclusion otherTarget otherContext otherParams
      otherSpan =>
    beqTarget target otherTarget && context == otherContext && beqParams params otherParams &&
      span == otherSpan
  | _, _ => false

/-- Whether two parameters are equal. -/
def beqParam : Param → Param → Bool
  | ⟨name, argument⟩, ⟨other, otherArgument⟩ =>
    name == other && beqArgument argument otherArgument

/-- Whether two values of parameters are written alike. -/
def beqArgument : Argument → Argument → Bool
  | .path p, .path q => p == q
  | .literal a, .literal b => a == b
  | .interpolated a, .interpolated b => beqBody a b
  | _, _ => false

/-- Whether two names of templates are written alike. -/
def beqTarget : Target → Target → Bool
  | .static a, .static b => a == b
  | .dynamic a, .dynamic b => beqBody a b
  | _, _ => false

/-- Whether two lists of parameters are equal. -/
def beqParams : List Param → List Param → Bool
  | [], [] => true
  | param :: params, other :: others => beqParam param other && beqParams params others
  | _, _ => false

/-- Whether two main bodies are equal. -/
def beqMain : Option (List Part) → Option (List Part) → Bool
  | none, none => true
  | some a, some b => beqBody a b
  | _, _ => false

/-- Whether two dictionaries of bodies are equal. -/
def beqBodies : List (String × List Part) → List (String × List Part) → Bool
  | [], [] => true
  | (name, body) :: rest, (other, otherBody) :: others =>
    name == other && beqBody body otherBody && beqBodies rest others
  | _, _ => false

/-- Whether two bodies are equal. -/
def beqBody : List Part → List Part → Bool
  | [], [] => true
  | part :: parts, other :: others => beq part other && beqBody parts others
  | _, _ => false

end

end Part

/-- Whether two templates are equal. -/
def Template.beq (a b : Template) : Bool :=
  a.source == b.source && Part.beqBody a.body b.body && Part.beqBodies a.blocks b.blocks &&
    a.path.map FilePath.ofString == b.path.map FilePath.ofString

instance : BEq Template := ⟨Template.beq⟩

end Dust
