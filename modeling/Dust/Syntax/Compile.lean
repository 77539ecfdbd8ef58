import Dust.Syntax.Assembly
import Dust.Syntax.TokenStream

/-!
# Compiling templates

The source is cut into tokens, the tokens are read as segments, and the segments are put together.
A string in a tag may hold tags itself, and is compiled in the same way. There are no strings in the
tags of a string: their quotes would have to be escaped, and a tag has no escapes.
-/

namespace Dust

/-- The tokens that mean something, which blank space in tags does not. -/
def Stream.withoutBlanks (tokens : Stream Token) : Stream Token :=
  { tokens with items := tokens.items.filter (·.kind ≠ .whitespace) }

/-- The body and the inline partials of a text that begins at a byte of the source, given how
strings are read. -/
def Body.ofText (readString : Token → Except Located Body) (whitespace : Whitespace)
    (source : List Char) (start : Nat) (text : List Char) : Except Located (Body × Dict Body) :=
  let tokens := (Token.stream .text start text).withoutBlanks
  let input : Input := ⟨source, tokens.failure⟩
  Body.ofSegments (Segment.stream input readString whitespace tokens.items)

/-- The body of a string that holds no tags. -/
def Token.plainBody (token : Token) : Body :=
  Body.push [] (.text (String.ofList (unescape (token.inside 1 1))))

/-- The part of a string, in whose text the escapes are undone. -/
def Part.unescaped : Part → Part
  | .text content => .text (String.ofList (unescape content.toList))
  | part => part

/-- The body of a string. Its inline partials are of no use and are dropped. -/
def Token.stringBody (source : List Char) (token : Token) : Except Located Body :=
  if '{' ∈ token.inside 1 1 then do
    let (body, _) ← Body.ofText (fun string => .ok string.plainBody) .preserve source
      (token.start + 1) (token.inside 1 1)
    .ok (body.foldl (fun joined part => joined.push part.unescaped) [])
  else .ok token.plainBody

/-- The template that a source stands for. -/
def Template.compile (whitespace : Whitespace) (source : String) : Except Located Template := do
  let (body, blocks) ←
    Body.ofText (Token.stringBody source.toList) whitespace source.toList 0 source.toList
  .ok { source, body, blocks, path := none }

end Dust
