/-!
# Layout and escapes of raw text

A template can be laid out over lines that its output does not have. Compression drops the end of
every line together with the indentation of the next one. In a string a quote is written with a
backslash in front of it, which is the only escape.
-/

namespace Dust

/-- What becomes of the layout of raw text. -/
inductive Whitespace where
  /-- The text stays as it is written. -/
  | preserve
  /-- Line ends and indentation are dropped. -/
  | compress
  deriving DecidableEq, Inhabited

/-- Whether a character indents a line. -/
def isIndentation (c : Char) : Bool :=
  c = ' ' || c = '\t'

/-- A text without its line ends and the indentation after them, where the text begins in the
indentation of a line or behind it. -/
def compressFrom (indented : Bool) : List Char → List Char
  | [] => []
  | c :: rest =>
    if indented ∧ isIndentation c then compressFrom true rest
    else if c = '\n' then compressFrom true rest
    else if c = '\r' ∧ rest.head? = some '\n' then compressFrom false rest
    else c :: compressFrom false rest

/-- A text without its line ends and the indentation after them. -/
def compress (text : List Char) : List Char :=
  compressFrom false text

/-- Raw text as it is kept. -/
def Whitespace.apply : Whitespace → List Char → List Char
  | preserve, text => text
  | compress, text => Dust.compress text

/-- The text that the inside of a string stands for. -/
def unescape : List Char → List Char
  | [] => []
  | '\\' :: '"' :: rest => '"' :: unescape rest
  | c :: rest => c :: unescape rest

end Dust
