import Dust.Syntax.Fault

/-!
# Errors

What can go wrong with templates: a source may be malformed, rendering may fail, a file may be
unreadable, and a stored text may be no JSON of templates. An error names the template it is in and
the place in the source, as far as these are known.
-/

namespace Dust

/-- Why a render fails at some place. -/
inductive RenderFault where
  /-- A helper gives a reason of its own. -/
  | custom (message : String)
  /-- No helper has this name. -/
  | unknownHelper (name : String)
  /-- No filter has this name. -/
  | unknownFilter (name : String)
  /-- Templates include each other deeper than this. -/
  | includedTooDeep (limit : Nat)
  /-- No template has this name. -/
  | templateNotFound (name : String)
  /-- A helper stands without a parameter it needs. -/
  | missingParameter (helper parameter : String)
  /-- A comparison has neither a key nor a selection around it. -/
  | comparisonWithoutKey
  /-- A helper stands outside of a selection. -/
  | outsideSelection (helper : String)
  /-- A separator stands outside of an iteration. -/
  | outsideIteration
  /-- Arithmetic is called by a name it does not have. -/
  | unknownMethod (method : String)
  /-- Arithmetic is called without telling which. -/
  | missingMethod
  /-- An operation has no result. -/
  | failedOperation (operation : String)
  deriving DecidableEq

/-- The message of a fault of rendering. -/
def RenderFault.message : RenderFault → String
  | custom message => message
  | unknownHelper name => "unknown helper `" ++ name ++ "`"
  | unknownFilter name => "unknown filter `" ++ name ++ "`"
  | includedTooDeep limit =>
    "reached the maximum include depth (" ++ String.ofList (Nat.toDigits 10 limit) ++ ")"
  | templateNotFound name => "template `" ++ name ++ "` not found"
  | missingParameter helper parameter =>
    helper ++ " requires a `" ++ parameter ++ "` parameter"
  | comparisonWithoutKey => "comparison requires a `key` parameter"
  | outsideSelection helper => helper ++ " must be inside a select"
  | outsideIteration => "Sep must be inside an array"
  | unknownMethod method => "math method `" ++ method ++ "` is not supported"
  | missingMethod => "math requires a method"
  | failedOperation operation =>
    "math " ++ operation ++ " failed, operands must be numbers and not divide by zero"

/-- Why a file is not read. -/
inductive ReadFault where
  /-- Its bytes are no UTF-8. -/
  | invalidText
  /-- There is no file any more. -/
  | missing
  deriving DecidableEq

/-- The message of a fault of reading. -/
def ReadFault.message : ReadFault → String
  | invalidText => "stream did not contain valid UTF-8"
  | missing => "No such file or directory (os error 2)"

/-- What is wrong. -/
inductive Fault where
  /-- The source is no template. -/
  | malformed (fault : SyntaxFault)
  /-- Rendering fails. -/
  | render (fault : RenderFault)
  /-- A file is not read. -/
  | unreadable (path : String) (fault : ReadFault)
  /-- A stored text does not hold templates. -/
  | archive
  deriving DecidableEq

/-- The message of a fault. -/
def Fault.message : Fault → String
  | malformed fault => fault.message
  | render fault => fault.message
  | unreadable path fault => "failed to read `" ++ path ++ "`: " ++ fault.message
  | archive => "invalid archive"

/-- A place in a source. -/
structure Location where
  /-- The source. -/
  source : String
  /-- The bytes in it. -/
  span : Span
  deriving DecidableEq

/-- Something that is wrong, and where. -/
structure Error where
  /-- What is wrong. -/
  fault : Fault
  /-- The name of the template. -/
  template : Option String := none
  /-- The place in the source. -/
  location : Option Location := none
  deriving DecidableEq

namespace Error

/-- The error of a malformed source. -/
def ofLocated (source : String) (located : Located) : Error :=
  { fault := .malformed located.fault, location := some ⟨source, located.span⟩ }

/-- The error of a fault of rendering. -/
def ofRender (fault : RenderFault) : Error :=
  { fault := .render fault }

/-- The error with a place, unless it has one. -/
def withLocation (error : Error) (source : String) (span : Span) : Error :=
  { error with location := error.location.or (some ⟨source, span⟩) }

/-- The error with the name of a template, unless it has one. -/
def inTemplate (error : Error) (name : String) : Error :=
  { error with template := error.template.or (some name) }

/-- The message of an error. -/
def message (error : Error) : String :=
  error.fault.message

end Error

end Dust
