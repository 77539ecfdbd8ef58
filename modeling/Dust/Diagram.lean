import Dust.Error
import Dust.Number.Layout
import Dust.Text.Columns
import Dust.Text.Lines

/-!
# Texts of errors

An error is written on one line, with the bytes it is about, or as a diagram: the line of the source
with its number, and carets under the place in it. Where the carets begin and how many there are is
counted in columns of the display.
-/

namespace Dust

/-- A place as the index of a line and the number of columns before it. -/
structure Position where
  /-- The number of lines before the place. -/
  line : Nat
  /-- The number of columns before the place in its line. -/
  column : Nat
  deriving DecidableEq

/-- The columns of the first bytes of a line. A cut through a character counts the bytes. -/
def columnsBefore (line : List Char) (bytes : Nat) : Nat :=
  match Text.splitBytes? bytes line with
  | some (front, _) => Text.columns front
  | none => bytes

/-- The position of a byte, given the lines from some line on and the byte counted from there. A
byte behind all lines is placed behind the last one. -/
def Position.find (index last : Nat) (byte : Nat) : List (List Char) → Position
  | [] => ⟨index, last⟩
  | line :: rest =>
    let size := Text.byteSize line + 1
    if byte < size then ⟨index, columnsBefore line byte⟩
    else Position.find (index + 1) (Text.columns line) (byte - size) rest

/-- The position of a byte in a source. -/
def Position.ofByte (lines : List (List Char)) (byte : Nat) : Position :=
  Position.find 0 0 byte lines

/-- The number of columns of a span, but at least one. -/
def Span.columns (source : List Char) (span : Span) : Nat :=
  max 1 (Text.columns (span.textIn source))

/-- Columns without anything in them. -/
def blanks (count : Nat) : List Char :=
  List.replicate count ' '

/-- The diagram of a message at a place. -/
def diagram (message : List Char) (template : Option (List Char)) (source : List Char)
    (span : Span) : List Char :=
  let lines := Text.lines source
  let position := Position.ofByte lines span.start
  let number := Number.natText (position.line + 1)
  let code := (lines[position.line]?).getD (lines.getLast?.getD [])
  let margin := '\n' :: ' ' :: blanks number.length ++ [' ', '|']
  let heading := match template with
    | none => []
    | some name =>
      "\n  --> ".toList ++ name ++ ':' :: number ++
        ':' :: Number.natText (position.column + 1)
  heading ++ margin ++ '\n' :: ' ' :: number ++ ' ' :: '|' :: ' ' :: code ++ margin ++
    ' ' :: blanks position.column ++ List.replicate (span.columns source) '^' ++
    ' ' :: message ++ ['\n']

namespace Error

/-- An error on one line. -/
def display (error : Error) : String :=
  match error.location with
  | none => error.message
  | some ⟨_, span⟩ =>
    error.message ++ String.ofList (" between bytes ".toList ++ Number.natText span.start ++
      " and ".toList ++ Number.natText span.stop)

/-- An error as a diagram, or its message if it has no place. -/
def pretty (error : Error) : String :=
  match error.location with
  | none => error.message
  | some ⟨source, span⟩ =>
    String.ofList (diagram error.message.toList (error.template.map String.toList)
      source.toList span)

end Error

end Dust
