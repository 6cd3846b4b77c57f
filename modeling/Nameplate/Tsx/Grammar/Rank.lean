import Nameplate.Tsx.Grammar.Rule

/-!
# Which of two readings holds together more strongly

Where a phrase may end or go on, the strengths of the two readings are compared. Numbers are
compared with numbers. Everything else is compared by lists of ranks: a list decides between two
readings if both stand in it, and the one that stands first is the stronger.

* `Contender`: one side of such a comparison;
* `Contender.compare`: the outcome, `.eq` if nothing decides.
-/

namespace Nameplate.Tsx

/-- An entry of a list of ranks. -/
inductive Rank where
  | level (l : Level)
  | phrase (p : Phrase)
deriving DecidableEq

/-- One side of a comparison: the strength of a reading, and the phrases it would complete or go on
with. -/
structure Contender where
  strength : Option Strength
  phrases : List Phrase

namespace Contender

/-- The reading stands at a rank: by its strength, or by one of its phrases. -/
def standsAt (x : Contender) : Rank → Bool
  | .level l => x.strength == some (.level l)
  | .phrase p => x.phrases.contains p

/-- The number of a strength that is a number or absent. -/
def number? (x : Contender) : Option Int :=
  match x.strength with
  | none => some 0
  | some (.number n) => some n
  | some (.level _) => none

/-- The outcome in one list of ranks; `none` if the list does not hold both sides. At a rank where
both stand, the first one counts. -/
def compareIn (x y : Contender) : List Rank → Option Ordering
  | [] => none
  | r :: ranks =>
    if x.standsAt r then
      if ranks.any fun later => !x.standsAt later && y.standsAt later then some .gt else none
    else if y.standsAt r then
      if ranks.any x.standsAt then some .lt else none
    else compareIn x y ranks

/-- Compares two readings: by their numbers if they have different ones, else by the first list of
ranks that holds both. -/
def compare (ranks : List (List Rank)) (x y : Contender) : Ordering :=
  let byRank := (ranks.findSome? (compareIn x y)).getD .eq
  match x.number?, y.number? with
  | some m, some n =>
    if m < n then .lt
    else if n < m then .gt
    else if m = 0 then byRank
    else .eq
  | _, _ => byRank

end Contender

end Nameplate.Tsx
