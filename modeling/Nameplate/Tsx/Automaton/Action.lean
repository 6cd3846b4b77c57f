import Nameplate.Tsx.Automaton.State

/-!
# What to do with a terminal

In a state, a terminal may go on with what is under way (`Action.shift`) or end it
(`Action.reduce`). Where both are possible, or two productions end, the strengths of the readings
decide, then the side to which they go on; if nothing decides, all of them are tried.

* `Table.reductionsOn`: the productions that end, the weaker ones left out;
* `Table.actionsOn`: all that is to be tried.
-/

namespace Nameplate.Tsx

/-- A way to go on. -/
inductive Action where
  /-- The terminal is the next part of what is under way. -/
  | shift
  /-- A production ends before the terminal. -/
  | reduce (production : Nat)
  /-- The program ends. -/
  | accept
deriving DecidableEq

/-- Productions that may end, with the strength of the last one and the sides of all. -/
structure Reductions where
  productions : List Nat := []
  contender : Contender := ⟨none, []⟩
  sides : List (Option Side) := []

namespace Table

variable (t : Table)

/-- A terminal is in a set. -/
def has (set terminal : Nat) : Bool := set.testBit terminal

/-- The phrase of an item's production as a list, which is empty for a series. -/
def phrasesOf (x : Item) : List Phrase := (t.phrase? (t.production x.production).head).toList

/-- The reading of an item: how strongly what is before its dot holds together. -/
def contender (x : Item) : Contender :=
  ⟨(t.last? x).bind fun s => s.strength, t.phrasesOf x⟩

/-- Adds a production that may end: a stronger one replaces those before it, a weaker one is left
out. -/
def insertReduction (found : Reductions) (x : Item) : Reductions :=
  let c := t.contender x
  let side := (t.last? x).bind fun s => s.side
  let alone : Reductions := ⟨[x.production], c, [side]⟩
  if found.productions.isEmpty then alone
  else
    match c.compare Grammar.ranks found.contender with
    | .gt => alone
    | .eq =>
      ⟨found.productions ++ [x.production],
        ⟨c.strength, found.contender.phrases ++ c.phrases⟩, found.sides ++ [side]⟩
    | .lt => found

/-- The items that end before a terminal, the shorter productions first, then by their heads. -/
def completeOn (s : State) (terminal : Nat) : List Item :=
  let key (x : Item) : Nat × Nat := (x.dot, (t.production x.production).head)
  ((s.kernel.toList.filter fun e => t.isComplete e.item && has e.lookaheads terminal).map
    Entry.item).mergeSort fun x y =>
      (key x).1 < (key y).1 || ((key x).1 == (key y).1 && (key x).2 ≤ (key y).2)

/-- The items under way that go on with a terminal. -/
def shiftingOn (s : State) (terminal : Nat) : List Item :=
  (s.kernel.toList.filter fun e =>
    e.item.dot != 0 && ((t.next? e.item).any fun n => has (t.first n.symbol) terminal)).map
      Entry.item

/-- All items belong to one series. -/
def withinSeries (items : List Item) : Bool :=
  match items.map fun x => (t.production x.production).head with
  | [] => false
  | head :: heads => (t.phrase? head).isNone && heads.all (· == head)

/-- The productions that end before a terminal, the weaker ones left out. -/
def reductionsOn (s : State) (terminal : Nat) : Reductions :=
  (t.completeOn s terminal).foldl t.insertReduction {}

/-- What is to be tried, ends before going on. -/
def actionsOn (s : State) (terminal : Nat) : List Action :=
  let found := t.reductionsOn s terminal
  let reduces := found.productions.map fun p => if p == t.start then .accept else .reduce p
  if !has s.shiftable terminal then reduces
  else if reduces.isEmpty then [.shift]
  else
    let shifting := t.shiftingOn s terminal
    if t.withinSeries (shifting ++ t.completeOn s terminal) then reduces
    else
      let outcomes := shifting.map fun x => (t.contender x).compare Grammar.ranks found.contender
      match outcomes.contains .gt, outcomes.contains .lt with
      | true, false => [.shift]
      | false, true => reduces
      | true, true => reduces ++ [.shift]
      | false, false =>
        if found.sides.all (· == some .left) then reduces
        else if found.sides.all (· == some .right) then [.shift]
        else reduces ++ [.shift]

/-- The production of an empty program. -/
def emptyProgram : Nat :=
  (t.productions.findIdx? fun p => p.steps.isEmpty).getD t.start

end Table

end Nameplate.Tsx
