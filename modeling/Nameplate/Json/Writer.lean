import Nameplate.Json.Value

/-!
# Writing JSON

`Value.write` writes a value on one line, members in the order they have.
-/

namespace Nameplate.Json

/-- The four hexadecimal digits of a number below 2^16. -/
def hex4 (n : Nat) : List Char :=
  let digit (k : Nat) : Char := (Nat.digitChar (k % 16))
  [digit (n / 4096), digit (n / 256), digit (n / 16), digit n]

/-- A character as it stands in a string. -/
def writeChar (c : Char) : List Char :=
  match c with
  | '"' => ['\\', '"']
  | '\\' => ['\\', '\\']
  | '\n' => ['\\', 'n']
  | '\r' => ['\\', 'r']
  | '\t' => ['\\', 't']
  | _ => if c < ' ' then '\\' :: 'u' :: hex4 c.toNat else [c]

/-- A string with its quotes. -/
def writeString (s : String) : String :=
  "\"" ++ String.ofList (s.toList.flatMap writeChar) ++ "\""

mutual

/-- A value on one line. -/
def Value.write : Value → String
  | .null => "null"
  | .bool true => "true"
  | .bool false => "false"
  | .integer n => toString n
  | .fractional negative b => (if negative then "-" else "") ++ b.text
  | .string s => writeString s
  | .array items => "[" ++ writeItems items ++ "]"
  | .object members => "\x7b" ++ writeMembers members ++ "\x7d"
  | .void => "null"

/-- Values with commas between them. -/
def writeItems : List Value → String
  | [] => ""
  | [v] => v.write
  | v :: w :: rest => v.write ++ "," ++ writeItems (w :: rest)

/-- Members with commas between them. -/
def writeMembers : List (String × Value) → String
  | [] => ""
  | [(name, v)] => writeString name ++ ":" ++ v.write
  | (name, v) :: m :: rest => writeString name ++ ":" ++ v.write ++ "," ++ writeMembers (m :: rest)

end

end Nameplate.Json
