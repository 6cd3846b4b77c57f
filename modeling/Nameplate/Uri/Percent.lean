/-!
# Percent-encoding

A character that may not stand in a part of a URI is written as its UTF-8 bytes, each with a
percent sign and two hexadecimal digits. Which characters those are depends on the part.
-/

namespace Nameplate.Uri

/-- Control characters, as far as they are ASCII. -/
def isControl (c : Char) : Bool := c < ' ' || c == '\x7f'

/-- Characters encoded in an opaque path and an opaque host. -/
def inControls (c : Char) : Bool := isControl c || '\x7f' < c

/-- Characters encoded in a fragment. -/
def inFragment (c : Char) : Bool :=
  inControls c || c == ' ' || c == '"' || c == '<' || c == '>' || c == '`'

/-- Characters encoded in a path. -/
def inPath (c : Char) : Bool :=
  inFragment c || c == '#' || c == '?' || c == '\x7b' || c == '\x7d'

/-- Characters encoded in a segment that stands for a name in the file system. -/
def inSegment (c : Char) : Bool :=
  inPath c || c == '/' || c == '%' || c == '\\'

/-- Characters encoded in a query. -/
def inQuery (c : Char) : Bool :=
  inControls c || c == ' ' || c == '"' || c == '#' || c == '<' || c == '>'

/-- Characters encoded in a query of a scheme that belongs to the web. -/
def inWebQuery (c : Char) : Bool := inQuery c || c == '\''

/-- Characters encoded in a user name or a password. -/
def inUserInfo (c : Char) : Bool :=
  inPath c || c == '/' || c == ':' || c == ';' || c == '=' || c == '@' || c == '[' || c == '\\' ||
    c == ']' || c == '^' || c == '|'

/-- A digit of a number below 16, in capitals. -/
def hexDigit (n : Nat) : Char :=
  (Nat.digitChar n).toUpper

/-- A byte behind a percent sign. -/
def encodeByte (b : UInt8) : List Char :=
  ['%', hexDigit (b.toNat / 16), hexDigit (b.toNat % 16)]

/-- A character, encoded if it belongs to a class. -/
def encodeChar (encoded : Char → Bool) (c : Char) : List Char :=
  if encoded c then (String.utf8EncodeChar c).flatMap encodeByte else [c]

/-- A text with the characters of a class encoded. -/
def encode (encoded : Char → Bool) (text : List Char) : List Char :=
  text.flatMap (encodeChar encoded)

/-- The value of a hexadecimal digit. -/
def hexValue (c : Char) : Option Nat :=
  if '0' ≤ c && c ≤ '9' then some (c.toNat - '0'.toNat)
  else if 'a' ≤ c && c ≤ 'f' then some (c.toNat - 'a'.toNat + 10)
  else if 'A' ≤ c && c ≤ 'F' then some (c.toNat - 'A'.toNat + 10)
  else none

/-- The bytes a text stands for: a percent sign that no two digits follow stands for itself. -/
def decode : List Char → List UInt8
  | [] => []
  | '%' :: a :: b :: rest =>
    match hexValue a, hexValue b with
    | some x, some y => UInt8.ofNat (x * 16 + y) :: decode rest
    | _, _ => String.utf8EncodeChar '%' ++ decode (a :: b :: rest)
  | c :: rest => String.utf8EncodeChar c ++ decode rest

end Nameplate.Uri
