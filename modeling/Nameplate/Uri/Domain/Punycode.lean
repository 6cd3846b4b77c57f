/-!
# Names with other letters in ASCII

A label with letters beyond ASCII is written with ASCII letters and digits only: first its ASCII
characters, then, behind a hyphen, numbers that say where the other characters are inserted and
which they are. The numbers are written with 36 digits, and their length adapts to their size.

* `punycode`: the ASCII form of a label;
* `ofPunycode?`: the label of an ASCII form.
-/

namespace Nameplate.Uri.Domain

/-- The number of digits. -/
def base : Nat := 36

/-- The first character that is no ASCII character. -/
def firstOther : Nat := 0x80

/-- How many of the numbers below a digit at some place end a number. -/
def threshold (place bias : Nat) : Nat :=
  if place ≤ bias then 1 else if bias + 26 ≤ place then 26 else place - bias

theorem threshold_pos (place bias : Nat) : 1 ≤ threshold place bias := by
  unfold threshold
  split
  · omega
  · split <;> omega

/-- The bias for numbers of about a size, behind `k` places; the size shrinks with each place. -/
def settle (k delta : Nat) : Nat :=
  if (base - 1) * 26 / 2 < delta then settle (k + base) (delta / (base - 1))
  else k + base * delta / (delta + 38)
termination_by delta
decreasing_by exact Nat.div_lt_self (by omega) (by decide)

/-- The bias for the next number. -/
def adapt (delta count : Nat) (isFirst : Bool) : Nat :=
  let delta := if isFirst then delta / 700 else delta / 2
  settle 0 (delta + delta / count)

/-- A digit. -/
def digitChar (d : Nat) : Char :=
  if d < 26 then Char.ofNat ('a'.toNat + d) else Char.ofNat ('0'.toNat + d - 26)

/-- The value of a digit. -/
def digitValue (c : Char) : Option Nat :=
  if 'a' ≤ c && c ≤ 'z' then some (c.toNat - 'a'.toNat)
  else if 'A' ≤ c && c ≤ 'Z' then some (c.toNat - 'A'.toNat)
  else if '0' ≤ c && c ≤ '9' then some (c.toNat - '0'.toNat + 26)
  else none

/-! ## Writing -/

/-- The digits of a number, the lowest first. -/
def writeNumber (bias place q : Nat) : List Char :=
  let t := threshold place bias
  if q < t then [digitChar q]
  else
    digitChar (t + (q - t) % (base - t)) ::
      writeNumber bias (place + base) ((q - t) / (base - t))
termination_by q
decreasing_by
  have := threshold_pos place bias
  exact Nat.lt_of_le_of_lt (Nat.div_le_self _ _) (by omega)

/-- Where the writing of a label stands. -/
structure Writing where
  delta : Nat := 0
  bias : Nat := 72
  handled : Nat
  isFirst : Bool := true
  /-- The digits so far, the last one first. -/
  digits : List Char := []

/-- Writes the numbers for all occurrences of a character: the position counts the characters before
it that are smaller. -/
def writeChar (n : Nat) (w : Writing) (c : Char) : Writing :=
  if c.toNat < n then { w with delta := w.delta + 1 }
  else if c.toNat == n then
    { delta := 0
      bias := adapt w.delta (w.handled + 1) w.isFirst
      handled := w.handled + 1
      isFirst := false
      digits := (writeNumber w.bias base w.delta).reverse ++ w.digits }
  else w

/-- Writes the numbers for the characters of a label that are no ASCII characters, the smaller ones
first; `next` is the first that was not looked at. -/
def writeOthers (label : List Char) : List Nat → Nat → Writing → Writing
  | [], _, w => w
  | n :: rest, next, w =>
    let w := { w with delta := w.delta + (n - next) * (w.handled + 1) }
    let w := label.foldl (writeChar n) w
    writeOthers label rest (n + 1) { w with delta := w.delta + 1 }

/-- The ASCII form of a label. -/
def punycode (label : List Char) : List Char :=
  let basic := label.filter fun c => c.toNat < firstOther
  let others := ((label.map Char.toNat).filter (firstOther ≤ ·)).eraseDups.mergeSort
  let w := writeOthers label others firstOther { handled := basic.length }
  (if basic.isEmpty then [] else basic ++ ['-']) ++ w.digits.reverse

/-! ## Reading -/

/-- The number at the start of some digits, and what follows it. -/
def readNumber (bias : Nat) : Nat → Nat → List Char → Option (Nat × List Char)
  | _, _, [] => none
  | place, weight, c :: rest => do
    let d ← digitValue c
    let t := threshold place bias
    if d < t then pure (d * weight, rest)
    else
      let (n, rest) ← readNumber bias (place + base) (weight * (base - t)) rest
      pure (d * weight + n, rest)

/-- Where the reading of a label stands: what is found so far, the character that was inserted last
and the place behind it. -/
structure Insertion where
  label : List Char
  last : Nat := firstOther
  place : Nat := 0
  bias : Nat := 72

/-- Inserts the characters that numbers say into a label; `fuel` bounds how many there are. -/
def insertOthers : Nat → Insertion → List Char → Option (List Char)
  | _, found, [] => some found.label
  | 0, _, _ => none
  | fuel + 1, found, digits => do
    let (delta, rest) ← readNumber found.bias base 1 digits
    let count := found.label.length + 1
    let position := found.place + delta
    let n := found.last + position / count
    guard (n < 0x110000 && !(0xD800 ≤ n && n < 0xE000))
    let place := position % count
    insertOthers fuel
      { label := found.label.take place ++ Char.ofNat n :: found.label.drop place
        last := n
        place := place + 1
        bias := adapt delta count (found.place == 0) } rest

/-- The label of an ASCII form. Its ASCII characters stand before the last hyphen, if there are any:
a hyphen at the start is none that divides. -/
def ofPunycode? (text : List Char) : Option (List Char) :=
  let digits := (text.reverse.takeWhile (· != '-')).reverse
  let basic := (text.take (text.length - digits.length)).dropLast
  if basic.isEmpty then insertOthers text.length { label := [] } text
  else if basic.all fun c => c.toNat < firstOther then
    insertOthers digits.length { label := basic } digits
  else none

end Nameplate.Uri.Domain
