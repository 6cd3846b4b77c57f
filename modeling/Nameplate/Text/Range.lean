/-!
# Byte ranges of a text

A text is a list of characters, and places in it are counted in UTF-8 bytes. This module holds

* `Range`: a half-open range of byte offsets, with `contains` and `overlaps`;
* `dropBytes`, `takeBytes`, `slice`: the part of a text between two offsets, which exists only
  where both offsets stand between two characters.
-/

namespace Nameplate.Text

/-- The number of bytes of a text in UTF-8. -/
def byteLength (text : List Char) : Nat :=
  text.foldr (fun c n => c.utf8Size + n) 0

@[simp] theorem byteLength_nil : byteLength [] = 0 := rfl

@[simp] theorem byteLength_cons (c : Char) (text : List Char) :
    byteLength (c :: text) = c.utf8Size + byteLength text := rfl

@[simp] theorem byteLength_append (a b : List Char) :
    byteLength (a ++ b) = byteLength a + byteLength b := by
  induction a with
  | nil => simp
  | cons c a ih => simp [ih, Nat.add_assoc]

/-- What is left of a text behind its first `n` bytes; `none` if a character straddles that
offset or the text is shorter. -/
def dropBytes : Nat → List Char → Option (List Char)
  | 0, text => some text
  | _ + 1, [] => none
  | n + 1, c :: text =>
    if c.utf8Size ≤ n + 1 then dropBytes (n + 1 - c.utf8Size) text else none
termination_by _ text => text.length

/-- The first `n` bytes of a text; `none` if a character straddles that offset or the text is
shorter. -/
def takeBytes : Nat → List Char → Option (List Char)
  | 0, _ => some []
  | _ + 1, [] => none
  | n + 1, c :: text =>
    if c.utf8Size ≤ n + 1 then (takeBytes (n + 1 - c.utf8Size) text).map (c :: ·) else none
termination_by _ text => text.length

/-- A half-open range of byte offsets. Nothing forces `start ≤ stop`: a reversed range contains
no offset and has no text. -/
structure Range where
  start : Nat
  stop : Nat
deriving DecidableEq, Repr, Inhabited

namespace Range

/-- The range without length at an offset. -/
def empty (offset : Nat) : Range := ⟨offset, offset⟩

/-- An offset lies in a range from its start up to, but not at, its stop. -/
def contains (r : Range) (offset : Nat) : Bool :=
  r.start ≤ offset && offset < r.stop

/-- Two ranges overlap if each starts before the other stops; ranges that only touch do not. -/
def overlaps (r s : Range) : Bool :=
  r.start < s.stop && s.start < r.stop

end Range

/-- The text of a range; `none` for a reversed range, one that leaves the text, or one that
cuts a character. -/
def slice (text : List Char) (r : Range) : Option (List Char) :=
  if r.start ≤ r.stop then (dropBytes r.start text).bind (takeBytes (r.stop - r.start)) else none

end Nameplate.Text
