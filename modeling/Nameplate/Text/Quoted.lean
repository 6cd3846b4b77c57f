import Nameplate.Text.Hidden

/-!
# Quoted text in messages

A text in a message stands in double quotes. Quotes and backslashes in it have a backslash before
them, line ends and tabs are written by letters, and characters that do not show by their numbers.
-/

namespace Nameplate.Text

/-- A character between quotes. -/
def quotedChar (c : Char) : String :=
  match c with
  | '\x00' => "\\0"
  | '\t' => "\\t"
  | '\n' => "\\n"
  | '\r' => "\\r"
  | '"' => "\\\""
  | '\\' => "\\\\"
  | _ =>
    if isHidden c then "\\u\x7b" ++ String.ofList (Nat.toDigits 16 c.toNat) ++ "\x7d"
    else c.toString

/-- A text in quotes. -/
def quoted (text : String) : String :=
  "\"" ++ String.join (text.toList.map quotedChar) ++ "\""

end Nameplate.Text
