import Dust.Number.Layout
import Dust.Number.Reader
import Dust.Syntax.Opening
import Dust.Syntax.Tree
import Mathlib.Data.List.Infix

/-!
# Templates as they are written

The text of a template tree in the concrete syntax, one function for each kind of tree. Inline
partials stand before the body. A section or helper is an open tag with its parameters, the main
body, the named bodies each after a tag of its own, and a close tag that repeats the key; without a
main body it is one tag that closes itself.

Not every tree can be written so that it is the tree of its text. The trees that can are described
by `isWritable`: their names are words of a tag, their texts hold no brace, and no text stands
directly before another one.
-/

namespace Dust

/-! ## Texts -/

mutual

/-- The text of a path. The first name of a path stands without a dot of its own if the path is
relative. -/
def Path.written : Path → List Char
  | ⟨.relative, .name name :: keys, _⟩ => name.toList ++ Path.writtenKeys keys
  | ⟨.relative, keys, _⟩ => Path.writtenKeys keys
  | ⟨.current, .name name :: keys, _⟩ => Path.writtenKeys (.name name :: keys)
  | ⟨.current, keys, _⟩ => '.' :: Path.writtenKeys keys

/-- The text of a key behind other keys. -/
def Key.written : Key → List Char
  | .name name => '.' :: name.toList
  | .index index => '[' :: (Number.natText index ++ [']'])
  | .path path => '[' :: (path.written ++ [']'])

/-- The text of keys in a row. -/
def Path.writtenKeys : List Key → List Char
  | [] => []
  | key :: keys => key.written ++ Path.writtenKeys keys

end

/-- The text of a string, whose characters need no escapes. -/
def quotedText (text : String) : List Char :=
  '"' :: (text.toList ++ ['"'])

/-- The text of a literal. -/
def Literal.written : Literal → List Char
  | .string text => quotedText text
  | .integer n => Number.intText n.toInt
  | .float x => Number.Layout.json.text x

/-- The text of a chain of filters. -/
def Identifier.writtenFilters (filters : List Identifier) : List Char :=
  filters.flatMap fun filter => '|' :: filter.name.toList

/-- The character after the brace of a section. -/
def SectionKind.sigil : SectionKind → Char
  | iterate => '#'
  | present => '?'
  | absent => '^'

/-- The character after the brace of a tag with bodies. -/
def Head.sigil : Head → Char
  | .test kind _ => kind.sigil
  | .helper _ => '@'

/-- The key that a tag with bodies and its close tag share. -/
def Head.writtenKey : Head → List Char
  | .test _ key => key.written
  | .helper name => name.name.toList

/-- The text of a tag without bodies. -/
def writtenTag (sigil : Char) (inside : List Char) : List Char :=
  '{' :: sigil :: (inside ++ ['}'])

/-- The text of a tag that closes itself. -/
def writtenAlone (sigil : Char) (inside : List Char) : List Char :=
  '{' :: sigil :: (inside ++ ['/', '}'])

/-- The text of the path of the current value of a partial. -/
def Path.writtenContext : Option Path → List Char
  | none => []
  | some path => ':' :: path.written

mutual

/-- The text of a part. -/
def Part.written : Part → List Char
  | .text content => content.toList
  | .comment content => '{' :: '!' :: (content.toList ++ ['!', '}'])
  | .reference path filters _ =>
    '{' :: (path.written ++ Identifier.writtenFilters filters ++ ['}'])
  | .element head params none _ _ =>
    writtenAlone head.sigil (head.writtenKey ++ Param.writtenAll params)
  | .element head params (some main) bodies _ =>
    writtenTag head.sigil (head.writtenKey ++ Param.writtenAll params) ++ Part.writtenBody main ++
      Part.writtenBodies bodies ++ writtenTag '/' head.writtenKey
  | .block name none => writtenAlone '+' name.name.toList
  | .block name (some main) =>
    writtenTag '+' name.name.toList ++ Part.writtenBody main ++ writtenTag '/' name.name.toList
  | .inclusion target context params _ =>
    writtenAlone '>' (target.written ++ Path.writtenContext context ++ Param.writtenAll params)

/-- The text of parts in a row. -/
def Part.writtenBody : List Part → List Char
  | [] => []
  | part :: rest => part.written ++ Part.writtenBody rest

/-- The text of named bodies, each after its tag. -/
def Part.writtenBodies : List (String × List Part) → List Char
  | [] => []
  | (name, body) :: rest =>
    writtenTag ':' name.toList ++ Part.writtenBody body ++ Part.writtenBodies rest

/-- The text of a parameter with the blank space before it. -/
def Param.written : Param → List Char
  | ⟨name, argument⟩ => ' ' :: (name.name.toList ++ '=' :: argument.written)

/-- The text of parameters in a row. -/
def Param.writtenAll : List Param → List Char
  | [] => []
  | param :: params => param.written ++ Param.writtenAll params

/-- The text of the value of a parameter. -/
def Argument.written : Argument → List Char
  | .path path => path.written
  | .literal literal => literal.written
  | .interpolated body => '"' :: (Part.writtenBody body ++ ['"'])

/-- The text of the name of a partial. -/
def Target.written : Target → List Char
  | .static name => quotedText name
  | .dynamic body => '"' :: (Part.writtenBody body ++ ['"'])

end

namespace Template

/-- The text of an inline partial. -/
def writtenBlock (block : String × Body) : List Char :=
  writtenTag '<' block.1.toList ++ Part.writtenBody block.2 ++ writtenTag '/' block.1.toList

/-- The text of a template. -/
def written (template : Template) : List Char :=
  template.blocks.flatMap writtenBlock ++ Part.writtenBody template.body

end Template

/-! ## Trees that can be written -/

/-- Whether a name is a word of a tag. -/
def isWord (name : String) : Bool :=
  match name.toList with
  | [] => false
  | first :: rest => isWordStart first && rest.all isWordPart

/-- Whether a character stands for itself in a string. -/
def isPlain (c : Char) : Bool :=
  c ≠ '{' && c ≠ '"' && c ≠ '\\'

/-- Whether keys begin with a name. -/
def Path.beginsWithName : List Key → Bool
  | .name _ :: _ => true
  | _ => false

mutual

/-- Whether a path can be written. -/
def Path.isWritable : Path → Bool
  | ⟨anchor, keys, _⟩ =>
    (anchor == .current || Path.beginsWithName keys) && Path.areWritableKeys keys

/-- Whether a key can be written. -/
def Key.isWritable : Key → Bool
  | .name name => isWord name
  | .index index => decide (index < Number.indexBound)
  | .path path => path.isWritable

/-- Whether keys can be written. -/
def Path.areWritableKeys : List Key → Bool
  | [] => true
  | key :: keys => key.isWritable && Path.areWritableKeys keys

end

/-- Whether a part is a text. -/
def Part.isText : Part → Bool
  | .text _ => true
  | _ => false

/-- Whether no text of a body is empty or stands directly before another one. -/
def Body.isSettled : Body → Bool
  | [] => true
  | .text content :: rest => content ≠ "" && !rest.head?.any Part.isText && isSettled rest
  | _ :: rest => isSettled rest

/-- Whether a reference can be written. -/
def Part.isWritableReference : Part → Bool
  | .reference path filters _ => path.isWritable && filters.all (isWord ·.name)
  | _ => false

/-- Whether a part can be written in a string. -/
def Part.isWritableInString : Part → Bool
  | .text content => content.toList.all isPlain
  | part => part.isWritableReference

/-- Whether a body can be written as a string that has to be rendered. -/
def Body.isWritableString (body : Body) : Bool :=
  body.all Part.isWritableInString && body.any Part.isWritableReference && body.isSettled

/-- Whether a value of a parameter can be written. -/
def Argument.isWritable : Argument → Bool
  | .path way => way.isWritable
  | .literal (.string text) => text.toList.all isPlain
  | .literal (.integer _) => true
  | .literal (.float _) => false
  | .interpolated body => Body.isWritableString body

/-- Whether a parameter can be written. -/
def Param.isWritable (param : Param) : Bool :=
  isWord param.name.name && param.argument.isWritable

/-- Whether the key of a tag with bodies can be written. -/
def Head.isWritable : Head → Bool
  | .test _ key => key.isWritable
  | .helper name => isWord name.name

/-- Whether the name of a partial can be written. -/
def Target.isWritable : Target → Bool
  | .static name => name.toList.all isPlain
  | .dynamic body => Body.isWritableString body

mutual

/-- Whether a part can be written. -/
def Part.isWritable : Part → Bool
  | .text content => '{' ∉ content.toList
  | .comment content => decide (¬ ['!', '}'] <:+: content.toList)
  | .reference path filters span => Part.isWritableReference (.reference path filters span)
  | .element head params main bodies _ =>
    head.isWritable && params.all Param.isWritable && (main.isSome || bodies.isEmpty) &&
      decide (Dict.Sorted bodies) && Part.isWritableMain main && Part.areWritableBodies bodies
  | .block name main => isWord name.name && Part.isWritableMain main
  | .inclusion target context params _ =>
    target.isWritable && context.all Path.isWritable && params.all Param.isWritable

/-- Whether a main body, if there is one, can be written. -/
def Part.isWritableMain : Option (List Part) → Bool
  | none => true
  | some body => Part.areWritable body && Body.isSettled body

/-- Whether named bodies can be written. -/
def Part.areWritableBodies : List (String × List Part) → Bool
  | [] => true
  | (name, body) :: rest =>
    isWord name && Part.areWritable body && Body.isSettled body && Part.areWritableBodies rest

/-- Whether parts can be written. -/
def Part.areWritable : List Part → Bool
  | [] => true
  | part :: rest => part.isWritable && Part.areWritable rest

end

/-- Whether a template can be written. -/
def Template.isWritable (template : Template) : Bool :=
  Part.areWritable template.body && Body.isSettled template.body &&
    decide (Dict.Sorted template.blocks) && Part.areWritableBodies template.blocks

/-! ## Trees without places -/

mutual

/-- A path without its places in the source. -/
def Path.unplaced : Path → Path
  | ⟨anchor, keys, _⟩ => ⟨anchor, Path.unplacedKeys keys, default⟩

/-- A key without its places in the source. -/
def Key.unplaced : Key → Key
  | .path path => .path path.unplaced
  | key => key

/-- Keys without their places in the source. -/
def Path.unplacedKeys : List Key → List Key
  | [] => []
  | key :: keys => key.unplaced :: Path.unplacedKeys keys

end

/-- A name without its place in the source. -/
def Identifier.unplaced (name : Identifier) : Identifier :=
  ⟨name.name, default⟩

/-- The head of a tag without its places in the source. -/
def Head.unplaced : Head → Head
  | .test kind key => .test kind key.unplaced
  | .helper name => .helper name.unplaced

mutual

/-- A part without its places in the source. -/
def Part.unplaced : Part → Part
  | .text content => .text content
  | .comment content => .comment content
  | .reference path filters _ =>
    .reference path.unplaced (filters.map Identifier.unplaced) default
  | .element head params main bodies _ =>
    .element head.unplaced (Param.unplacedAll params) (Part.unplacedMain main)
      (Part.unplacedBodies bodies) default
  | .block name main => .block name.unplaced (Part.unplacedMain main)
  | .inclusion target context params _ =>
    .inclusion target.unplaced (context.map Path.unplaced) (Param.unplacedAll params) default

/-- A main body, if there is one, without its places in the source. -/
def Part.unplacedMain : Option (List Part) → Option (List Part)
  | none => none
  | some body => some (Part.unplacedBody body)

/-- Parts without their places in the source. -/
def Part.unplacedBody : List Part → List Part
  | [] => []
  | part :: rest => part.unplaced :: Part.unplacedBody rest

/-- Named bodies without their places in the source. -/
def Part.unplacedBodies : List (String × List Part) → List (String × List Part)
  | [] => []
  | (name, body) :: rest => (name, Part.unplacedBody body) :: Part.unplacedBodies rest

/-- A parameter without its places in the source. -/
def Param.unplaced : Param → Param
  | ⟨name, argument⟩ => ⟨name.unplaced, argument.unplaced⟩

/-- Parameters without their places in the source. -/
def Param.unplacedAll : List Param → List Param
  | [] => []
  | param :: params => param.unplaced :: Param.unplacedAll params

/-- A value of a parameter without its places in the source. -/
def Argument.unplaced : Argument → Argument
  | .path way => .path way.unplaced
  | .literal literal => .literal literal
  | .interpolated body => .interpolated (Part.unplacedBody body)

/-- The name of a partial without its places in the source. -/
def Target.unplaced : Target → Target
  | .static name => .static name
  | .dynamic body => .dynamic (Part.unplacedBody body)

end

/-- Whether two templates have the same tree, wherever its parts are written. -/
def Template.SameTree (first second : Template) : Prop :=
  Part.unplacedBody first.body = Part.unplacedBody second.body ∧
    Part.unplacedBodies first.blocks = Part.unplacedBodies second.blocks

end Dust
