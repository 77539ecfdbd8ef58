import Dust.Syntax.Span

/-!
# Tokens

The pieces that the source of a template is cut into. Outside of tags these are raw text, comments,
raw text in quotes, special characters and the openings of tags; inside of tags the words and marks
of the tag, the blank space between them and the ends of the tag.
-/

namespace Dust

/-- What a token is. -/
inductive TokenKind where
  /-- Text outside of tags. -/
  | raw
  /-- A comment with its marks. -/
  | comment
  /-- Text that no tag is looked for in, with its marks. -/
  | rawText
  /-- The name of a special character, as a tag. -/
  | special
  /-- The brace of a reference. -/
  | openReference
  /-- The opening of a section. -/
  | openSection
  /-- The opening of a section for what is there. -/
  | openExists
  /-- The opening of a section for what is not there. -/
  | openNotExists
  /-- The opening of a helper. -/
  | openHelper
  /-- The opening of an inline partial. -/
  | openDefinition
  /-- The opening of a block. -/
  | openBlock
  /-- The opening of a partial. -/
  | openPartial
  /-- The opening of the tag that begins a named body. -/
  | openBody
  /-- The opening of a close tag. -/
  | openClose
  /-- The end of a tag. -/
  | tagEnd
  /-- The end of a tag that closes itself. -/
  | selfClose
  /-- The name of a partial without quotes. -/
  | partialName
  /-- A dot. -/
  | dot
  /-- An opening bracket. -/
  | openBracket
  /-- A closing bracket. -/
  | closeBracket
  /-- A pipe. -/
  | pipe
  /-- A colon. -/
  | colon
  /-- An equals sign. -/
  | equals
  /-- Blank space in a tag. -/
  | whitespace
  /-- A word. -/
  | identifier
  /-- A number. -/
  | number
  /-- A string with its quotes. -/
  | string
  deriving DecidableEq, Inhabited

namespace TokenKind

/-- What a token is called in messages. -/
def description : TokenKind → String
  | raw => "raw template"
  | comment => "comment"
  | rawText => "raw text"
  | special => "special character"
  | openReference => "begin reference"
  | openSection => "begin section"
  | openExists => "begin exists section"
  | openNotExists => "begin not exists section"
  | openHelper => "begin helper"
  | openDefinition => "begin inline partial"
  | openBlock => "begin block"
  | openPartial => "begin partial"
  | openBody => "begin body"
  | openClose => "close tag"
  | tagEnd => "end tag"
  | selfClose => "self closing end tag"
  | partialName => "partial name"
  | dot => "member access operator"
  | openBracket => "open bracket"
  | closeBracket => "close bracket"
  | pipe => "pipe"
  | colon => "colon"
  | equals => "equals"
  | whitespace => "whitespace"
  | identifier => "identifier"
  | number => "number"
  | string => "string"

/-- Whether a token is followed by the inside of a tag. -/
def opensTag : TokenKind → Bool
  | openReference | openSection | openExists | openNotExists | openHelper | openDefinition
  | openBlock | openPartial | openBody | openClose => true
  | _ => false

/-- The tag whose opening is a brace and this character. -/
def ofSigil? : Char → Option TokenKind
  | '#' => some openSection
  | '?' => some openExists
  | '^' => some openNotExists
  | '@' => some openHelper
  | '<' => some openDefinition
  | '+' => some openBlock
  | '>' => some openPartial
  | ':' => some openBody
  | '/' => some openClose
  | _ => none

end TokenKind

/-- A token with its text and the place where it begins. -/
structure Token where
  /-- What the token is. -/
  kind : TokenKind
  /-- The characters of the token. -/
  text : List Char
  /-- The first byte of the token. -/
  start : Nat
  deriving DecidableEq, Inhabited

namespace Token

/-- The byte after the token. -/
def stop (token : Token) : Nat :=
  token.start + Text.byteSize token.text

/-- The bytes of the token. -/
def span (token : Token) : Span :=
  ⟨token.start, token.stop⟩

/-- The text of a token as a string. -/
def string (token : Token) : String :=
  String.ofList token.text

end Token

end Dust
