import Nameplate.Json.Value

/-!
# Reading JSON

`read` accepts exactly the texts of the standard: one value, blanks around it, no comments and no
trailing commas. What is well written and stands for nothing is read as `Value.void`, so it does no
harm where nobody asks for it.
-/

namespace Nameplate.Json

/-- White space between tokens. -/
def isBlank (c : Char) : Bool :=
  c == ' ' || c == '\n' || c == '\t' || c == '\r'

def skipBlanks (text : List Char) : List Char := text.dropWhile isBlank

/-- The value of a hexadecimal digit. -/
def hexDigit (c : Char) : Option Nat :=
  if '0' ≤ c && c ≤ '9' then some (c.toNat - '0'.toNat)
  else if 'a' ≤ c && c ≤ 'f' then some (c.toNat - 'a'.toNat + 10)
  else if 'A' ≤ c && c ≤ 'F' then some (c.toNat - 'A'.toNat + 10)
  else none

/-- The value of four hexadecimal digits, and what follows them. -/
def hexUnit : List Char → Option (Nat × List Char)
  | a :: b :: c :: d :: rest => do
    let digits ← [a, b, c, d].mapM hexDigit
    pure (digits.foldl (fun n d => n * 16 + d) 0, rest)
  | _ => none

/-- The character of a `\u` escape, behind the `u`: two escapes make up a surrogate pair, and a
surrogate alone is no character. -/
def unicodeEscape (text : List Char) : Option (Option Char × List Char) := do
  let (unit, rest) ← hexUnit text
  if 0xD800 ≤ unit && unit < 0xDC00 then
    match rest with
    | '\\' :: 'u' :: more =>
      let (low, behind) ← hexUnit more
      if 0xDC00 ≤ low && low < 0xE000 then
        pure (some (Char.ofNat (0x10000 + (unit - 0xD800) * 0x400 + (low - 0xDC00))), behind)
      else pure (none, rest)
    | _ => pure (none, rest)
  else if 0xDC00 ≤ unit && unit < 0xE000 then pure (none, rest)
  else pure (some (Char.ofNat unit), rest)

/-- The character of a one-letter escape. -/
def letterEscape : Char → Option Char
  | '"' => some '"'
  | '\\' => some '\\'
  | '/' => some '/'
  | 'b' => some '\x08'
  | 'f' => some '\x0c'
  | 'n' => some '\n'
  | 'r' => some '\r'
  | 't' => some '\t'
  | _ => none

/-- The rest of a string behind its opening quote, as far as it stands for characters; `found` holds
those before, the last one first, and `fuel` bounds the number of characters. -/
def readString : Nat → Option (List Char) → List Char → Option (Option String × List Char)
  | 0, _, _ => none
  | fuel + 1, found, text =>
    match text with
    | [] => none
    | '"' :: rest => some (found.map fun cs => String.ofList cs.reverse, rest)
    | '\\' :: 'u' :: rest => do
      let (c, rest) ← unicodeEscape rest
      readString fuel (found.bind fun cs => c.map (· :: cs)) rest
    | '\\' :: c :: rest => do
      let c ← letterEscape c
      readString fuel (found.map (c :: ·)) rest
    | c :: rest => if c < ' ' then none else readString fuel (found.map (c :: ·)) rest

/-- A string behind its opening quote. -/
def readText (text : List Char) : Option (Option String × List Char) :=
  readString (text.length + 1) (some []) text

def isDigit (c : Char) : Bool := '0' ≤ c && c ≤ '9'

/-- The number a list of digits writes. -/
def digitsValue (digits : List Char) : Nat :=
  digits.foldl (fun acc c => acc * 10 + (c.toNat - '0'.toNat)) 0

/-- The exponent of a number: `none` if it is malformed, zero if there is none. -/
def readExponent (text : List Char) : Option (Int × Bool × List Char) :=
  match text with
  | c :: rest =>
    if c == 'e' || c == 'E' then
      let (negative, rest) := match rest with
        | '-' :: more => (true, more)
        | '+' :: more => (false, more)
        | _ => (false, rest)
      let digits := rest.takeWhile isDigit
      if digits.isEmpty then none
      else
        let n : Int := digitsValue digits
        some (if negative then -n else n, true, rest.dropWhile isDigit)
    else some (0, false, text)
  | [] => some (0, false, text)

/-- Whether a number without a fraction is kept as an integer: it fits into 64 bits, and zero has
no sign. -/
def fitsInteger (negative : Bool) (n : Nat) : Bool :=
  if negative then n != 0 && n ≤ 0x8000000000000000 else n < wordLimit

/-- The number with some digits before and behind the point and an exponent. -/
def numberOf (negative : Bool) (whole fraction : List Char) (exponent : Int) : Value :=
  let (n, taken) := gather 0 whole
  let (n, places) := gather n fraction
  match Binary.ofDecimal? n (exponent + (whole.length - taken : Nat) - places) with
  | some b => .fractional negative b
  | none => .void

/-- A number. -/
def readNumber (text : List Char) : Option (Value × List Char) := do
  let (negative, text) := match text with
    | '-' :: rest => (true, rest)
    | _ => (false, text)
  let whole := text.takeWhile isDigit
  let rest := text.dropWhile isDigit
  guard (!whole.isEmpty && (whole.head? != some '0' || whole.length == 1))
  let (fraction, rest, fractional) ← match rest with
    | '.' :: more =>
      let digits := more.takeWhile isDigit
      if digits.isEmpty then none else some (digits, more.dropWhile isDigit, true)
    | _ => some ([], rest, false)
  let (exponent, scaled, rest) ← readExponent rest
  let n := digitsValue whole
  if fractional || scaled || !fitsInteger negative n then
    pure (numberOf negative whole fraction exponent, rest)
  else pure (.integer (if negative then -n else n), rest)

/-- A word with a meaning. -/
def readWord (text : List Char) : Option (Value × List Char) :=
  match text with
  | 'n' :: 'u' :: 'l' :: 'l' :: rest => some (.null, rest)
  | 't' :: 'r' :: 'u' :: 'e' :: rest => some (.bool true, rest)
  | 'f' :: 'a' :: 'l' :: 's' :: 'e' :: rest => some (.bool false, rest)
  | _ => none

/-- What a reader of values has still to finish: an array or an object with the items so far, the
last one first. An object with a name that stands for nothing has none. -/
inductive Frame where
  | items (found : List Value)
  | members (found : Option (List (String × Value))) (name : Option String)

/-- Adds a member to those of an object. -/
def addMember (found : Option (List (String × Value))) (name : Option String) (v : Value) :
    Option (List (String × Value)) := do
  pure ((← name, v) :: (← found))

/-- The object of some members, the last one first. -/
def objectOf : Option (List (String × Value)) → Value
  | some found => .object found.reverse
  | none => .void

/-- A member name with its colon, at the start of a text. -/
def readName (text : List Char) : Option (Option String × List Char) :=
  match text with
  | '"' :: rest => do
    let (name, rest) ← readText rest
    match skipBlanks rest with
    | ':' :: rest => some (name, skipBlanks rest)
    | _ => none
  | _ => none

/-- What a reader does next: read a value, or go on behind one. -/
inductive Task where
  | value
  | after (v : Value)

/-- Reads a value with the containers it stands in; `fuel` bounds the number of tokens. -/
def readFrom : Nat → List Frame → Task → List Char → Option (Value × List Char)
  | 0, _, _, _ => none
  | fuel + 1, frames, .value, text =>
    match text with
    | '[' :: rest =>
      match skipBlanks rest with
      | ']' :: rest => readFrom fuel frames (.after (.array [])) rest
      | rest => readFrom fuel (.items [] :: frames) .value rest
    | '\x7b' :: rest =>
      match skipBlanks rest with
      | '\x7d' :: rest => readFrom fuel frames (.after (.object [])) rest
      | rest => do
        let (name, rest) ← readName rest
        readFrom fuel (.members (some []) name :: frames) .value rest
    | '"' :: rest => do
      let (s, rest) ← readText rest
      readFrom fuel frames (.after (s.elim .void .string)) rest
    | c :: _ => do
      let (v, rest) ← if c == '-' || isDigit c then readNumber text else readWord text
      readFrom fuel frames (.after v) rest
    | [] => none
  | _ + 1, [], .after v, text => some (v, text)
  | fuel + 1, .items found :: frames, .after v, text =>
    match skipBlanks text with
    | ',' :: rest => readFrom fuel (.items (v :: found) :: frames) .value (skipBlanks rest)
    | ']' :: rest => readFrom fuel frames (.after (.array (v :: found).reverse)) rest
    | _ => none
  | fuel + 1, .members found name :: frames, .after v, text =>
    match skipBlanks text with
    | ',' :: rest => do
      let (next, rest) ← readName (skipBlanks rest)
      readFrom fuel (.members (addMember found name v) next :: frames) .value rest
    | '\x7d' :: rest =>
      readFrom fuel frames (.after (objectOf (addMember found name v))) rest
    | _ => none

/-- The value a text writes. -/
def read (text : String) : Option Value := do
  let text := text.toList
  let (v, rest) ← readFrom (2 * text.length + 2) [] .value (skipBlanks text)
  guard (skipBlanks rest).isEmpty
  pure v

end Nameplate.Json
