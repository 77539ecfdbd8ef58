import Dust.Text.Visible

/-!
# Quoted texts

A text between double quotes, for readers. The quote, the backslash and the common controls are
written with a backslash, and other characters that cannot be seen as code points.
-/

namespace Dust.Text

/-- A character by its code point. -/
def codePoint (c : Char) : List Char :=
  ['\\', 'u', '\x7b'] ++ Nat.toDigits 16 c.toNat ++ ['\x7d']

/-- The form of a character between quotes. -/
def quotedChar (c : Char) : List Char :=
  match c with
  | '"' => ['\\', '"']
  | '\\' => ['\\', '\\']
  | '\x00' => ['\\', '0']
  | '\t' => ['\\', 't']
  | '\n' => ['\\', 'n']
  | '\r' => ['\\', 'r']
  | _ => if isVisible c then [c] else codePoint c

/-- A text between quotes. -/
def quotation (text : String) : List Char :=
  '"' :: text.toList.flatMap quotedChar ++ ['"']

/-- A list of texts between quotes. -/
def quotations (texts : List String) : List Char :=
  '[' :: List.intercalate [',', ' '] (texts.map quotation) ++ [']']

end Dust.Text
