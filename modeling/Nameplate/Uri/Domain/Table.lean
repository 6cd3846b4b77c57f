import Std.Data.HashMap

/-!
# Tables of characters

A table gives numbers for characters. It is written as lines of entries with blanks between them,
all numbers in hexadecimal: `61` is one character, `61-7A` are all from the first to the last, and
`100-12E/2` every second of them. Behind `=` stand the numbers of the entry, with points between
them.
-/

namespace Nameplate.Uri.Domain

/-- An entry of a table: the characters from `first` to `last` in steps, and what the table gives
for the first of them. -/
structure Entry where
  first : Nat
  last : Nat
  step : Nat
  values : List Nat
deriving Repr

/-- The number that hexadecimal digits write. -/
def hexNumber (digits : List Char) : Nat :=
  digits.foldl
    (fun n c => n * 16 + (if c ≤ '9' then c.toNat - '0'.toNat else c.toNat - 'A'.toNat + 10)) 0

/-- Splits a list at every occurrence of a character. -/
def pieces (separator : Char) (text : List Char) : List (List Char) :=
  text.foldr
    (fun c parts =>
      if c == separator then [] :: parts
      else match parts with
        | part :: rest => (c :: part) :: rest
        | [] => [[c]])
    [[]]

/-- The part before a character and the part behind it, if it occurs. -/
def halves (separator : Char) (text : List Char) : List Char × Option (List Char) :=
  match pieces separator text with
  | [a, b] => (a, some b)
  | _ => (text, none)

namespace Entry

/-- The entry that a text writes. -/
def ofText (text : List Char) : Entry :=
  let (place, values) := halves '=' text
  let (range, step) := halves '/' place
  let (first, last) := halves '-' range
  { first := hexNumber first
    last := hexNumber (last.getD first)
    step := (step.map hexNumber).getD 1
    values := match values with
      | none | some [] => []
      | some text => (pieces '.' text).map hexNumber }

/-- The character is among those from the first to the last. -/
def covers (e : Entry) (c : Char) : Bool := e.first ≤ c.toNat && c.toNat ≤ e.last

/-- The characters of an entry, with what the table gives for each of them: the first number goes
along with the characters. -/
def expand (e : Entry) : List (Nat × List Nat) :=
  (List.range ((e.last - e.first) / e.step + 1)).map fun i =>
    (e.first + i * e.step,
      match e.values with
      | [v] => [v + i * e.step]
      | vs => vs)

end Entry

/-- The entries of a table. -/
def entries (lines : List String) : List Entry :=
  lines.flatMap fun line => (pieces ' ' line.toList).map Entry.ofText

/-- A character is covered by an entry. -/
def coveredBy (table : List Entry) (c : Char) : Bool := table.any fun e => e.covers c

end Nameplate.Uri.Domain
