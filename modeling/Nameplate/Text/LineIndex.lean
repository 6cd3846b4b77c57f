import Nameplate.Text.Range

/-!
# Lines and columns

`LineIndex` turns byte offsets of a text into positions: a line, counted in line feeds, and a
column in UTF-16 code units. It keeps the offsets at which lines start and finds the line of an
offset by bisection.
-/

namespace Nameplate.Text

/-- A line and a column, both from zero. -/
structure Position where
  line : Nat
  character : Nat
deriving DecidableEq, Repr, Inhabited

/-- Two positions: where something starts and where it stops. -/
structure Span where
  start : Position
  stop : Position
deriving DecidableEq, Repr, Inhabited

/-- The number of UTF-16 code units of a character. -/
def unitSize (c : Char) : Nat := if c.toNat < 0x10000 then 1 else 2

/-- The number of UTF-16 code units of a text. -/
def unitLength (text : List Char) : Nat :=
  text.foldr (fun c n => unitSize c + n) 0

@[simp] theorem unitLength_nil : unitLength [] = 0 := rfl

@[simp] theorem unitLength_cons (c : Char) (text : List Char) :
    unitLength (c :: text) = unitSize c + unitLength text := rfl

/-- The offsets behind each line feed of a text that starts at an offset. -/
def lineStartsFrom (offset : Nat) : List Char → List Nat
  | [] => []
  | c :: text =>
    let next := offset + c.utf8Size
    if c = '\n' then next :: lineStartsFrom next text else lineStartsFrom next text

/-- A text with the offsets at which its lines start. -/
structure LineIndex where
  text : List Char
  lineStarts : Array Nat
deriving DecidableEq, Repr

namespace LineIndex

def ofText (text : List Char) : LineIndex :=
  ⟨text, (0 :: lineStartsFrom 0 text).toArray⟩

/-- The last line from `lo` on and before `hi` that starts at or before an offset, if line `lo`
does. -/
def lineOf (starts : Array Nat) (offset lo hi : Nat) : Nat :=
  if lo + 1 < hi then
    let mid := (lo + hi) / 2
    if starts.getD mid 0 ≤ offset then lineOf starts offset mid hi else lineOf starts offset lo mid
  else lo
termination_by hi - lo

/-- The position of an offset; offsets behind the text count as its end. There is none inside a
character. -/
def position (index : LineIndex) (offset : Nat) : Option Position := do
  let offset := min offset (byteLength index.text)
  let line := lineOf index.lineStarts offset 0 index.lineStarts.size
  let before ← slice index.text ⟨index.lineStarts.getD line 0, offset⟩
  pure ⟨line, unitLength before⟩

/-- The positions of the two ends of a range. -/
def span (index : LineIndex) (r : Range) : Option Span := do
  pure ⟨← index.position r.start, ← index.position r.stop⟩

end LineIndex

/-- Whether a text has a carriage return before a line feed. -/
def hasCrLf : List Char → Bool
  | '\r' :: '\n' :: _ => true
  | _ :: text => hasCrLf text
  | [] => false

/-- The line ending a text uses: CRLF if it has one, else LF. -/
def lineEnding (text : List Char) : String :=
  if hasCrLf text then "\r\n" else "\n"

end Nameplate.Text
