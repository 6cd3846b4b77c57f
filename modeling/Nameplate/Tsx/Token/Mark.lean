import Nameplate.Tsx.Source
import Nameplate.Tsx.Terminal

/-!
# Tokens that depend on their surroundings

Inserted semicolons, the question mark of a conditional, text of templates and of elements, and
comments in the manner of HTML. What they are depends on what else is expected at a place.

* `Source.ending`: whether a semicolon is inserted at a place;
* `Source.mark?`: the mark at a place.
-/

namespace Nameplate.Tsx

/-- The answer to the question whether a semicolon is inserted. -/
structure Ending where
  inserted : Bool
  /-- Where the character stands that decided. -/
  position : Nat
  /-- A comment to the end of its line was passed on the way. -/
  passedComment : Bool := false

namespace Source

/-! ## Inserted semicolons -/

/-- Skips the text of a block comment up to its end, or to the end of the source. -/
def pastBlockComment (s : Source) (i : Nat) : Nat :=
  if i < s.size then
    if s.startsWith i "*/" then i + 2
    else if s.peek i == '\x00' then i
    else pastBlockComment s (i + 1)
  else i
termination_by s.size - i

/-- Skips blanks and comments on the way to the token that decides on a semicolon, and tells whether
there is one: a lone slash decides against a semicolon. -/
def pastComments (s : Source) (passed : Bool) : Nat → Nat → Bool × Nat × Bool
  | 0, i => (true, i, passed)
  | fuel + 1, i =>
    let j := s.skipWhile isBlank i
    if s.peek j == '/' then
      if s.peek (j + 1) == '/' then
        pastComments s true fuel (s.skipWhile (fun c => c != '\n' && c != '\x00') (j + 2))
      else if s.peek (j + 1) == '*' then pastComments s passed fuel (s.pastBlockComment (j + 2))
      else (false, j + 1, passed)
    else (true, j, passed)

/-- Whether the token at `i`, the first of a later line, lets a statement end before it, and where
the character stands that decides. Where an operator is expected, a bracket goes on with the
statement; where the end of a signature is, a brace starts its body. -/
def startsAfresh (s : Source) (expected : Terminal → Bool) (i : Nat) : Bool × Nat :=
  match s.peek i with
  | '`' | ',' | '.' | ';' | '*' | '%' | '>' | '<' | '=' | '?' | '^' | '|' | '&' | '/' | ':' =>
    (false, i)
  | '\x7b' => (!expected (.mark .signatureEnd), i)
  | '(' | '[' => (!expected (.literal "||"), i)
  | '+' => (s.peek (i + 1) == '+', i + 1)
  | '-' => (s.peek (i + 1) == '-', i + 1)
  | '!' => (s.peek (i + 1) != '=', i + 1)
  | 'i' =>
    if s.peek (i + 1) != 'n' then (true, i)
    else if !isLetter (s.peek (i + 2)) then (false, i + 2)
    else (!(s.startsWith (i + 2) "stanceof" && !isLetter (s.peek (i + 10))), i + 10)
  | _ => (true, i)

/-- Whether a semicolon is inserted at `i`: at the end of the text, before a closing brace (if a
colon follows it, only where an operator is expected), and before a line feed whose next token
starts afresh. -/
def ending (s : Source) (expected : Terminal → Bool) (i : Nat) : Ending :=
  let j := s.skipWhile (fun c => isBlank c && c != '\n') i
  match s.peek j with
  | '\x00' => ⟨true, j, false⟩
  | '\x7d' =>
    let k := s.skipWhile isBlank (j + 1)
    ⟨s.peek k != ':' || expected (.literal "||"), k, false⟩
  | '\n' =>
    let (found, k, passed) := s.pastComments false (s.size + 1 - j) (j + 1)
    if found then
      let (inserted, position) := s.startsAfresh expected k
      ⟨inserted, position, passed⟩
    else ⟨false, k, passed⟩
  | _ => ⟨false, j, false⟩

/-! ## Other marks -/

/-- A question mark from `i` on that starts the second part of a conditional: it is no mark of an
optional part, and a value may follow it. -/
def conditional? (s : Source) (i : Nat) : Option Nat :=
  let j := s.skipWhile isBlank i
  if s.peek j != '?' || s.peek (j + 1) == '?' || s.peek (j + 1) == '.' then none
  else
    let k := s.skipWhile isBlank (j + 1)
    match s.peek k with
    | ':' | ')' | ',' => none
    | '.' => if isDigit (s.peek (k + 1)) then some j else none
    | _ => some j

/-- The end of the template text at `i`; `none` if the template has no end. -/
def templateTextEnd? (s : Source) (i : Nat) : Option Nat :=
  if i < s.size then
    match s.peek i with
    | '`' | '\\' => some i
    | '\x00' => none
    | '$' => if s.peek (i + 1) == '\x7b' then some i else templateTextEnd? s (i + 1)
    | _ => templateTextEnd? s (i + 1)
  else none
termination_by s.size - i

/-- The end of the text between tags at `i`. -/
def jsxTextEnd (s : Source) (i : Nat) : Nat :=
  s.skipWhile (fun c => !"\x00<>\x7b\x7d&".toList.contains c) i

/-- Text between tags counts unless it is blank from its first line feed on and nothing comes before
that. -/
def isVisibleText (s : Source) (i j : Nat) : Bool :=
  i < j && !(s.peek i == '\n' && ((s.chars.extract i j).all isBlank))

/-- The comment in the manner of HTML from `i` on: its start and its end. -/
def htmlComment? (s : Source) (i : Nat) : Option (Nat × Nat) :=
  let isBreak (c : Char) : Bool := c == '\u2028' || c == '\u2029'
  let j := s.skipWhile (fun c => isBlank c || isBreak c) i
  if s.startsWith j "<!--" || s.startsWith j "-->" then
    some (j, s.skipWhile (fun c => c != '\n' && !isBreak c && c != '\x00') j)
  else none

/-- A place, given by its start and its end, as the place of a mark. -/
def markAt (m : Mark) (start stop : Nat) : Option (Mark × Nat × Nat) := some (m, start, stop)

/-- The mark at `i`, given what is expected there: its start and its end. -/
def mark? (s : Source) (expected : Terminal → Bool) (i : Nat) : Option (Mark × Nat × Nat) :=
  let expects (m : Mark) : Bool := expected (.mark m)
  let j := s.jsxTextEnd i
  if expects .templateText then
    if expects .semicolon then none
    else
      match s.templateTextEnd? i with
      | some j => if i < j then markAt .templateText i j else none
      | none => none
  else if expects .jsxText && s.isVisibleText i j then markAt .jsxText i j
  else if expects .semicolon || expects .signatureEnd then
    let e := s.ending expected i
    if e.inserted then markAt .semicolon i i
    else if !e.passedComment && expects .conditional && s.peek e.position == '?' then
      (s.conditional? e.position).bind fun j => markAt .conditional j (j + 1)
    else none
  else if expects .conditional then
    (s.conditional? i).bind fun j => markAt .conditional j (j + 1)
  else if !expected (.literal "||") && !expected (.lexeme .escape) &&
      !expected (.lexeme .regexPattern) then
    (s.htmlComment? i).bind fun (j, k) => markAt .htmlComment j k
  else none

end Source

end Nameplate.Tsx
