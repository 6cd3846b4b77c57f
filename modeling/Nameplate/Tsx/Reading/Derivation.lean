import Nameplate.Tsx.Automaton.Table
import Nameplate.Tsx.Token.Basic

/-!
# Derivations

How a part of a text was read: with which production, from which derivations. Of two derivations of
the same text the heavier one is chosen; if they weigh the same, the one whose symbols come first.

* `Derivation.ofToken`, `Derivation.ofParts`: the derivation of a token, and of a production;
* `Derivation.compare`: the order of derivations of the same weight;
* `Derivation.better`: the choice.
-/

namespace Nameplate.Tsx

/-- Whether a token stands in the text and was expected there. -/
inductive Presence where
  | expected
  /-- The token is not in the text. -/
  | missing
  /-- The token has no place in what is under way. -/
  | unexpected
deriving DecidableEq

/-- What a derivation says about itself, its parts apart. -/
structure Stem where
  /-- The number of the symbol. -/
  symbol : Nat
  /-- The production, if the symbol is no terminal. -/
  production : Option Nat := none
  start : Nat
  stop : Nat
  /-- By how much the derivation is preferred. -/
  weight : Int := 0
  /-- The token may stand anywhere. -/
  extra : Bool := false
  presence : Presence := .expected

/-- How a part of a text was read. -/
inductive Derivation where
  | mk (stem : Stem) (parts : List Derivation)

namespace Derivation

def stem : Derivation → Stem
  | .mk s _ => s

def parts : Derivation → List Derivation
  | .mk _ ps => ps

/-- The derivation of a token. -/
def ofToken (token : Token) (extra : Bool) (presence : Presence) : Derivation :=
  .mk { symbol := token.terminal, start := token.start, stop := token.stop, extra, presence } []

/-- The weight of some derivations together. -/
def weightOf (parts : List Derivation) : Int :=
  parts.foldl (fun w d => w + d.stem.weight) 0

/-- The derivation of a production from its parts. Without parts it stands at `place`. -/
def ofParts (place production : Nat) (parts : List Derivation) : Derivation :=
  let start := (parts.head?.map fun d => d.stem.start).getD place
  let stop := (parts.getLast?.map fun d => d.stem.stop).getD place
  let p := table.production production
  .mk { symbol := table.terminals.size + p.head, production, start, stop
        weight := weightOf parts + p.weight } parts

mutual

/-- The order of derivations of the same weight: by symbol, by the number of parts, then by the
parts from the first to the last. -/
def compare : Derivation → Derivation → Ordering
  | .mk s ps, .mk t qs =>
    if s.symbol < t.symbol then .lt
    else if t.symbol < s.symbol then .gt
    else if ps.length < qs.length then .lt
    else if qs.length < ps.length then .gt
    else compareParts ps qs

/-- The order of two lists of derivations, by the first pair that differs. -/
def compareParts : List Derivation → List Derivation → Ordering
  | [], _ => .eq
  | _ :: _, [] => .eq
  | p :: ps, q :: qs =>
    match compare p q with
    | .eq => compareParts ps qs
    | o => o

end

/-- The second derivation is to be taken instead of the first. -/
def better (d e : Derivation) : Bool :=
  d.stem.weight < e.stem.weight ||
    (d.stem.weight == e.stem.weight && d.compare e == .gt)

/-- Two derivations that cannot be told apart from outside. -/
def similar (d e : Derivation) : Bool :=
  d.stem.symbol == e.stem.symbol && d.stem.start == e.stem.start && d.stem.stop == e.stem.stop &&
    d.parts.length == e.parts.length && d.stem.extra == e.stem.extra

end Derivation

end Nameplate.Tsx
