import Dust.Syntax.Token

/-!
# Faults of the source of a template

Why a source is no template, and the place of the fault.
-/

namespace Dust

/-- What a tag needs next. -/
inductive Expectation where
  /-- A token of one kind. -/
  | token (kind : TokenKind)
  /-- A path. -/
  | path
  /-- A key of a path. -/
  | key
  /-- The value of a parameter. -/
  | parameterValue
  /-- The key of a close tag. -/
  | closeKey
  deriving DecidableEq

/-- What is expected, in messages. -/
def Expectation.description : Expectation → String
  | token kind => kind.description
  | path => "path"
  | key => "key"
  | parameterValue => "parameter value"
  | closeKey => "close tag key"

/-- Why a source is no template. -/
inductive SyntaxFault where
  /-- The source ends inside a tag. -/
  | unclosedTag
  /-- A comment has no end. -/
  | unclosedComment
  /-- Raw text in quotes has no end. -/
  | unclosedRawText
  /-- A character that no tag contains. -/
  | unexpectedCharacter
  /-- A string has no closing quote. -/
  | undelimitedString
  /-- No special character has this name. -/
  | unknownSpecial
  /-- One thing is needed, and another token or the end is found. -/
  | expected (wanted : Expectation) (found : Option TokenKind)
  /-- A token outside of tags that stands only inside of them. -/
  | unexpected (kind : TokenKind)
  /-- The digits of a position are too many, or are no digits. -/
  | invalidIndex
  /-- The text of a number is no number. -/
  | invalidNumber
  /-- A named body begins where no section or helper is open. -/
  | strayBody (name : String)
  /-- A close tag where nothing is open. -/
  | strayClose (key : String)
  /-- A close tag of something else than what is open. -/
  | mismatchedClose (wanted found : String)
  /-- A section or helper is still open at the end. -/
  | unclosedSection (key : String)
  /-- A block or inline partial is still open at the end. -/
  | unclosedBlock (name : String)
  deriving DecidableEq

/-- The message of a fault. -/
def SyntaxFault.message : SyntaxFault → String
  | unclosedTag => "unclosed tag"
  | unclosedComment => "unclosed comment"
  | unclosedRawText => "unclosed raw text"
  | unexpectedCharacter => "unexpected character"
  | undelimitedString => "undelimited string"
  | unknownSpecial => "unknown special character"
  | expected wanted found =>
    "expected " ++ wanted.description ++ ", found " ++
      (match found with
        | some kind => kind.description
        | none => "EOF")
  | unexpected kind => "unexpected " ++ kind.description
  | invalidIndex => "invalid index"
  | invalidNumber => "invalid number"
  | strayBody name => "unexpected `\x7b:" ++ name ++ "\x7d` outside of a section"
  | strayClose key => "unexpected close tag `\x7b/" ++ key ++ "\x7d`"
  | mismatchedClose wanted found =>
    "mismatched close tag `\x7b/" ++ found ++ "\x7d`, expected `\x7b/" ++ wanted ++ "\x7d`"
  | unclosedSection key => "unclosed section `" ++ key ++ "`"
  | unclosedBlock name => "unclosed block `" ++ name ++ "`"

/-- A fault and its place in the source. -/
structure Located where
  /-- What is wrong. -/
  fault : SyntaxFault
  /-- Where it is wrong. -/
  span : Span
  deriving DecidableEq

/-- Items up to the end of the source or up to the first fault. -/
structure Stream (α : Type) where
  /-- The items before the end. -/
  items : List α
  /-- The fault that ends the items, if it is not the end of the source. -/
  failure : Option Located

/-- The stream with one more item in front. -/
def Stream.cons {α : Type} (item : α) (stream : Stream α) : Stream α :=
  { stream with items := item :: stream.items }

end Dust
