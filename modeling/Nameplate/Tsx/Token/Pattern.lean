import Nameplate.Tsx.Source

/-!
# Patterns

A pattern says which texts a token may be. Reading a character turns a pattern into the patterns of
which one has to match what follows; so a set of patterns is all that has to be kept while a token
is read.

* `Pattern.nullable`: the pattern matches the empty text;
* `Pattern.after`: what remains of a pattern behind a character.
-/

namespace Nameplate.Tsx

/-- A set of characters. No set holds NUL: it stands for the end of the text. -/
inductive CharSet where
  /-- The characters between the bounds of one of the ranges. -/
  | within (ranges : List (Char × Char))
  /-- The characters outside all of the ranges. -/
  | outside (ranges : List (Char × Char))
deriving DecidableEq

namespace CharSet

/-- A character is between the bounds of one of the ranges. -/
def covers (ranges : List (Char × Char)) (c : Char) : Bool :=
  ranges.any fun (low, high) => low ≤ c && c ≤ high

def contains : CharSet → Char → Bool
  | within ranges, c => c != '\x00' && covers ranges c
  | outside ranges, c => c != '\x00' && !covers ranges c

/-- The characters of a text, as ranges. -/
def rangesOf (text : String) : List (Char × Char) := text.toList.map fun c => (c, c)

end CharSet

/-- Which texts a token may be. -/
inductive Pattern where
  | empty
  | one (set : CharSet)
  | both (first second : Pattern)
  | either (left right : Pattern)
  /-- One or more. -/
  | series (p : Pattern)
deriving DecidableEq, Inhabited

namespace Pattern

/-- The pattern matches the empty text. -/
def nullable : Pattern → Bool
  | empty => true
  | one _ => false
  | both p q => p.nullable && q.nullable
  | either p q => p.nullable || q.nullable
  | series p => p.nullable

/-- One pattern after the other. -/
def followedBy : Pattern → Pattern → Pattern
  | empty, q => q
  | p, q => both p q

def maybe (p : Pattern) : Pattern := either p empty

def many (p : Pattern) : Pattern := maybe (series p)

/-- What may remain of a pattern behind a character. -/
def after (c : Char) : Pattern → List Pattern
  | empty => []
  | one set => if set.contains c then [empty] else []
  | both p q =>
    let within := (p.after c).map (·.followedBy q)
    if p.nullable then within ++ q.after c else within
  | either p q => p.after c ++ q.after c
  | series p => (p.after c).map (·.followedBy (many p))

def seq : List Pattern → Pattern
  | [] => empty
  | [p] => p
  | p :: rest => both p (seq rest)

def oneOf : List Pattern → Pattern
  | [] => empty
  | [p] => p
  | p :: rest => either p (oneOf rest)

/-- A text that stands for itself. -/
def text (s : String) : Pattern := seq (s.toList.map fun c => one (.within [(c, c)]))

/-- A character of a text. -/
def anyOf (s : String) : Pattern := one (.within (CharSet.rangesOf s))

/-- A character that is not in a text. -/
def noneOf (s : String) : Pattern := one (.outside (CharSet.rangesOf s))

/-- A character between two bounds. -/
def between (low high : Char) : Pattern := one (.within [(low, high)])

/-- At least `least` and at most `least + more` times. -/
def times (p : Pattern) : Nat → Nat → Pattern
  | 0, 0 => empty
  | 0, more + 1 => maybe (followedBy p (times p 0 more))
  | least + 1, more => both p (times p least more)

end Pattern

end Nameplate.Tsx
