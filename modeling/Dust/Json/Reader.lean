import Dust.Json.Basic
import Dust.Json.Quoted

/-!
# Reading JSON

The grammar of JSON without extensions: white space is blank, tab, line feed and carriage return,
a number has no leading zeros, and a string has no raw control characters. The reader of a part
returns it together with the text after it.
-/

namespace Dust.Json

/-- Whether a character is white space between the tokens of JSON. -/
def isSpace (c : Char) : Bool :=
  c = ' ' || c = '\t' || c = '\n' || c = '\r'

/-- The text after its leading white space. -/
def skipSpace (text : List Char) : List Char :=
  text.dropWhile isSpace

/-- The written form of a string after its opening quote, and the text after the closing one. -/
def readQuoted : List Char → Option (List Char × List Char)
  | [] => none
  | '"' :: rest => some ([], rest)
  | '\\' :: 'u' :: a :: b :: c :: d :: rest => do
    let _ ← hexUnit? a b c d
    let (written, rest) ← readQuoted rest
    some ('\\' :: 'u' :: a :: b :: c :: d :: written, rest)
  | '\\' :: c :: rest => do
    let _ ← escapedChar? c
    let (written, rest) ← readQuoted rest
    some ('\\' :: c :: written, rest)
  | c :: rest =>
    if c = '\\' ∨ c.toNat < 0x20 then none
    else do
      let (written, rest) ← readQuoted rest
      some (c :: written, rest)

/-- At least one digit. -/
def readSomeDigits (text : List Char) : Option (List Char × List Char) :=
  match text.takeWhile Char.isDigit with
  | [] => none
  | digits => some (digits, text.dropWhile Char.isDigit)

/-- The integer part of a number: zero alone, or digits that do not begin with zero. -/
def readWhole : List Char → Option (List Char × List Char)
  | '0' :: rest =>
    match rest with
    | c :: _ => if c.isDigit then none else some (['0'], rest)
    | [] => some (['0'], rest)
  | text => readSomeDigits text

/-- The point of a number with its digits, if there is one. -/
def readFraction : List Char → Option (List Char × List Char)
  | '.' :: rest => do
    let (digits, rest) ← readSomeDigits rest
    some ('.' :: digits, rest)
  | text => some ([], text)

/-- The exponent of a number, if there is one. -/
def readExponent : List Char → Option (List Char × List Char)
  | mark :: rest =>
    if mark = 'e' ∨ mark = 'E' then
      match rest with
      | '+' :: rest => do
        let (digits, rest) ← readSomeDigits rest
        some (mark :: '+' :: digits, rest)
      | '-' :: rest => do
        let (digits, rest) ← readSomeDigits rest
        some (mark :: '-' :: digits, rest)
      | _ => do
        let (digits, rest) ← readSomeDigits rest
        some (mark :: digits, rest)
    else some ([], mark :: rest)
  | [] => some ([], [])

/-- A number as written. -/
def readNumber (text : List Char) : Option (List Char × List Char) := do
  let (sign, text) := match text with
    | '-' :: rest => (['-'], rest)
    | _ => ([], text)
  let (whole, text) ← readWhole text
  let (fraction, text) ← readFraction text
  let (exponent, text) ← readExponent text
  some (sign ++ whole ++ fraction ++ exponent, text)

/-- The name of a field with its quotes and the colon after it. -/
def readName (text : List Char) : Option (List Char × List Char) :=
  match skipSpace text with
  | '"' :: rest => do
    let (name, rest) ← readQuoted rest
    match skipSpace rest with
    | ':' :: rest => some (name, rest)
    | _ => none
  | _ => none

mutual

/-- A value and the text after it. The first argument bounds the nesting and the number of parts,
both of which the length of the text bounds. -/
def readValue : Nat → List Char → Option (Json × List Char)
  | 0, _ => none
  | bound + 1, text =>
    match skipSpace text with
    | 'n' :: 'u' :: 'l' :: 'l' :: rest => some (.null, rest)
    | 't' :: 'r' :: 'u' :: 'e' :: rest => some (.bool true, rest)
    | 'f' :: 'a' :: 'l' :: 's' :: 'e' :: rest => some (.bool false, rest)
    | '"' :: rest => do
      let (written, rest) ← readQuoted rest
      some (.string written, rest)
    | '[' :: rest =>
      match skipSpace rest with
      | ']' :: rest => some (.array [], rest)
      | rest => do
        let (items, rest) ← readItems bound rest
        some (.array items, rest)
    | '{' :: rest =>
      match skipSpace rest with
      | '}' :: rest => some (.object [], rest)
      | rest => do
        let (fields, rest) ← readFields bound rest
        some (.object fields, rest)
    | text => do
      let (written, rest) ← readNumber text
      some (.number written, rest)

/-- The items of an array up to its closing bracket, of which there is at least one. -/
def readItems : Nat → List Char → Option (List Json × List Char)
  | 0, _ => none
  | bound + 1, text => do
    let (item, rest) ← readValue bound text
    match skipSpace rest with
    | ']' :: rest => some ([item], rest)
    | ',' :: rest => do
      let (items, rest) ← readItems bound rest
      some (item :: items, rest)
    | _ => none

/-- The fields of an object up to its closing brace, of which there is at least one. -/
def readFields : Nat → List Char → Option (List (List Char × Json) × List Char)
  | 0, _ => none
  | bound + 1, text => do
    let (name, rest) ← readName text
    let (value, rest) ← readValue bound rest
    match skipSpace rest with
    | '}' :: rest => some ([(name, value)], rest)
    | ',' :: rest => do
      let (fields, rest) ← readFields bound rest
      some ((name, value) :: fields, rest)
    | _ => none

end

/-- The tree of a whole text, which holds one value and white space around it. -/
def parse? (text : List Char) : Option Json := do
  let (json, rest) ← readValue (2 * text.length + 2) text
  if skipSpace rest = [] then some json else none

end Dust.Json
