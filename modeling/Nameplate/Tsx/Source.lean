import Nameplate.Tsx.Tree

/-!
# Reading positions of a source

`Source` holds the characters of a file with the byte offset and the row of each of them.
Reading positions are character indices; `Source.point` turns one into a `Point` of the tree.
`Source.peek` answers NUL behind the end, so a NUL in the text ends every token.
-/

namespace Nameplate.Tsx

/-- A source prepared for reading by index. -/
structure Source where
  chars : Array Char
  /-- The point of each index, the index behind the last character included. -/
  points : Array Point

namespace Source

/-- The points of the characters of a text that follows `p`, and of its end. -/
def pointsFrom (p : Point) : List Char → List Point
  | [] => [p]
  | c :: cs => p :: pointsFrom ⟨p.byte + c.utf8Size, if c = '\n' then p.row + 1 else p.row⟩ cs

def ofList (text : List Char) : Source where
  chars := text.toArray
  points := (pointsFrom ⟨0, 0⟩ text).toArray

def size (s : Source) : Nat := s.chars.size

/-- The character at an index, NUL behind the end. -/
def peek (s : Source) (i : Nat) : Char := s.chars.getD i '\x00'

def point (s : Source) (i : Nat) : Point := s.points.getD i ⟨0, 0⟩

def atEnd (s : Source) (i : Nat) : Bool := s.size ≤ i

/-- The first index from `i` on whose character fails a test. -/
def skipWhile (s : Source) (p : Char → Bool) (i : Nat) : Nat :=
  if h : i < s.chars.size then
    if p s.chars[i] then skipWhile s p (i + 1) else i
  else i
termination_by s.chars.size - i

/-- The characters at `i` spell out a text. -/
def matchesAt (s : Source) (i : Nat) : List Char → Bool
  | [] => true
  | c :: cs => i < s.size && s.peek i == c && matchesAt s (i + 1) cs

/-- The characters at `i` spell out a string. -/
def startsWith (s : Source) (i : Nat) (text : String) : Bool :=
  s.matchesAt i text.toList

/-- The characters from `i` up to `j`. -/
def textBetween (s : Source) (i j : Nat) : String :=
  String.ofList (s.chars.extract i j).toList

end Source

/-! ## Character classes -/

/-- ASCII white space. -/
def isBlank (c : Char) : Bool :=
  c == ' ' || ('\t' ≤ c && c ≤ '\r')

/-- The separators of Unicode that are spaces, beyond the ASCII one. -/
def isSpaceSeparator (c : Char) : Bool :=
  c == '\u00a0' || c == '\u1680' || ('\u2000' ≤ c && c ≤ '\u200a') || c == '\u202f' ||
    c == '\u205f' || c == '\u3000'

/-- White space between tokens: blanks, space separators, line and paragraph separator, byte
order mark, word joiner and zero-width space. -/
def isGap (c : Char) : Bool :=
  isBlank c || isSpaceSeparator c || c == '\u2028' || c == '\u2029' || c == '\ufeff' ||
    c == '\u2060' || c == '\u200b'

def isDigit (c : Char) : Bool := '0' ≤ c && c ≤ '9'

def isLetter (c : Char) : Bool := ('a' ≤ c && c ≤ 'z') || ('A' ≤ c && c ≤ 'Z')

end Nameplate.Tsx
