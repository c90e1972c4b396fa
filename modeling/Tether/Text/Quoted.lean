import Tether.Text.Number
import Tether.Text.Unprintable

/-!
# Tether.Text.Quoted — text in quotation marks

A message that repeats a text puts it between quotation marks.  Quotation marks and backslashes inside it carry a
backslash, four control characters have short names, and any other character that would not be seen is spelled
out with its code point.
-/

namespace Tether.Text.Quoted

/-- A character spelled out with its code point: a backslash, `u`, and the number in braces. -/
def codePoint (c : Char) : String :=
  "\\u\x7b" ++ hexSmall c.toNat ++ "\x7d"

/-- A character as it stands between quotation marks. -/
def escape (c : Char) : String :=
  match c with
  | '"' => "\\\""
  | '\\' => "\\\\"
  | '\n' => "\\n"
  | '\r' => "\\r"
  | '\t' => "\\t"
  | '\x00' => "\\0"
  | _ => if isShown c then String.singleton c else codePoint c

/-- The text between quotation marks. -/
def quote (text : String) : String :=
  "\"" ++ String.join (text.toList.map escape) ++ "\""

end Tether.Text.Quoted
