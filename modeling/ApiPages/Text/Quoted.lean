/-
# Quoted text

The form in which a message shows a text it complains about: between double quotes, with a
backslash before a quote or a backslash, the short escapes for tab, line feed, carriage return and
NUL, and the code point in hexadecimal for every other character that would not show.
-/
import ApiPages.Text.Hexadecimal
import ApiPages.Text.Printable

namespace ApiPages.Text

/-- One character of a quoted text. -/
def quotedChar (c : Char) : List Char :=
  match c with
  | '"' => ['\\', '"']
  | '\\' => ['\\', '\\']
  | '\t' => ['\\', 't']
  | '\n' => ['\\', 'n']
  | '\r' => ['\\', 'r']
  | '\x00' => ['\\', '0']
  | _ => if isPrintable c then [c] else ['\\', 'u', '{'] ++ hexadecimal c.toNat ++ ['}']

/-- **The quoted form of a text.** -/
def quoted (s : String) : String :=
  String.ofList ('"' :: s.toList.flatMap quotedChar ++ ['"'])

end ApiPages.Text
