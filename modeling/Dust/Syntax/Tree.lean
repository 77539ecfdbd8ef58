import Dust.Dict
import Dust.Syntax.Span

/-!
# Template trees

What the source of a template means: a list of parts, some of which hold lists of parts themselves.
Places in the source are kept where a message may point at them.
-/

namespace Dust

/-- A name and its place in the source. -/
structure Identifier where
  /-- The name. -/
  name : String
  /-- Where the name is written. -/
  span : Span
  deriving DecidableEq, Inhabited

/-- Where the first key of a path is looked up. -/
inductive Anchor where
  /-- In the current frame and the frames around it. -/
  | relative
  /-- In the current frame alone. -/
  | current
  deriving DecidableEq, Inhabited

mutual

/-- The way to a value. -/
structure Path where
  /-- Where the first key is looked up. -/
  anchor : Anchor
  /-- The keys in the order they are followed. -/
  keys : List Key
  /-- Where the path is written. -/
  span : Span

/-- One step of a path. -/
inductive Key where
  /-- The entry of a map. -/
  | name (name : String)
  /-- The item of a list. -/
  | index (index : Nat)
  /-- The entry or item that another path leads to. -/
  | path (path : Path)

end

instance : Inhabited Path := ⟨⟨.current, [], default⟩⟩

/-- A value written in a tag. -/
inductive Literal where
  /-- A text. -/
  | string (text : String)
  /-- An integer. -/
  | integer (n : Int64)
  /-- A double. -/
  | float (x : Float)

/-- When the main body of a section is rendered. -/
inductive SectionKind where
  /-- For every item of a list, or once for what is truthy. -/
  | iterate
  /-- Once for what is truthy. -/
  | present
  /-- Once for what is not truthy. -/
  | absent
  deriving DecidableEq, Inhabited

/-- What a tag with bodies is. -/
inductive Head where
  /-- A section, which looks at the value of a path. -/
  | test (kind : SectionKind) (key : Path)
  /-- A call of a helper. -/
  | helper (name : Identifier)

mutual

/-- A part of a template. -/
inductive Part where
  /-- Text that is written as it is. -/
  | text (content : String)
  /-- A comment. -/
  | comment (content : String)
  /-- A value with the filters that are applied to it. -/
  | reference (path : Path) (filters : List Identifier) (span : Span)
  /-- A section or helper with its main body, if it has one, and its named bodies. -/
  | element (head : Head) (params : List Param) (main : Option (List Part))
      (bodies : List (String × List Part)) (span : Span)
  /-- A place that inline partials of an including template fill, with what it holds otherwise. -/
  | block (name : Identifier) (main : Option (List Part))
  /-- Another template in place of this part, with the path of its current value. -/
  | inclusion (target : Target) (context : Option Path) (params : List Param) (span : Span)

/-- A named value that is passed along. -/
structure Param where
  /-- The name. -/
  name : Identifier
  /-- How the value is written. -/
  argument : Argument

/-- How the value of a parameter is written. -/
inductive Argument where
  /-- The value that a path leads to. -/
  | path (path : Path)
  /-- A value as it stands. -/
  | literal (literal : Literal)
  /-- A text that is rendered. -/
  | interpolated (body : List Part)

/-- Which template is included. -/
inductive Target where
  /-- The template of this name. -/
  | static (name : String)
  /-- The template whose name is rendered. -/
  | dynamic (body : List Part)

end

/-- Parts in the order they are rendered. -/
abbrev Body := List Part

namespace Body

/-- The body with one more part at its end. A text joins a text directly before it, and an empty
text is dropped. -/
def push (body : Body) : Part → Body
  | .text content =>
    if content.isEmpty then body
    else
      match body.getLast? with
      | some (.text before) => body.dropLast ++ [.text (before ++ content)]
      | _ => body ++ [.text content]
  | part => body ++ [part]

/-- The text of a body that holds nothing else. -/
def text? : Body → Option String
  | [] => some ""
  | [.text content] => some content
  | _ => none

end Body

/-- A compiled template. -/
structure Template where
  /-- The text it is compiled from. -/
  source : String
  /-- What is rendered. -/
  body : Body
  /-- The inline partials by name. -/
  blocks : Dict Body
  /-- The file it is read from, if it is read from one. -/
  path : Option String

end Dust
