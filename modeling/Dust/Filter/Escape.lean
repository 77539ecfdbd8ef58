/-!
# Escapes for HTML and scripts

A text is escaped character by character. What is escaped for HTML holds no character that ends a
text or an attribute, and what is escaped for a script holds none that ends a string or the script.
-/

namespace Dust.Filter

/-- What stands for a character in HTML. -/
def htmlCharacter (c : Char) : List Char :=
  match c with
  | '&' => "&amp;".toList
  | '<' => "&lt;".toList
  | '>' => "&gt;".toList
  | '"' => "&quot;".toList
  | '\'' => "&#39;".toList
  | _ => [c]

/-- A text for HTML. -/
def escapeHtml (text : List Char) : List Char :=
  text.flatMap htmlCharacter

/-- What stands for a character in a string of a script. -/
def scriptCharacter (c : Char) : List Char :=
  match c with
  | '\\' => ['\\', '\\']
  | '/' => ['\\', '/']
  | '\'' => ['\\', '\'']
  | '"' => ['\\', '"']
  | '\n' => ['\\', 'n']
  | '\r' => ['\\', 'r']
  | '\t' => ['\\', 't']
  | '\x08' => ['\\', 'b']
  | '\x0c' => ['\\', 'f']
  | _ => [c]

/-- A text for a string of a script. -/
def escapeScript (text : List Char) : List Char :=
  text.flatMap scriptCharacter

end Dust.Filter
