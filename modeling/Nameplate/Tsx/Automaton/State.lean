import Nameplate.Tsx.Automaton.Table

/-!
# States of reading

While a text is read, a state tells which productions may be under way: each with how far it is read
(`Item`) and with the terminals that may follow it. A state is given by its *kernel*, the items that
have something before the dot; the items with which their next symbols may start are implied.

* `Table.kernelAfter`: the kernel behind a symbol;
* `State.ofKernel`: a state with the terminals that it expects.
-/

namespace Nameplate.Tsx

/-- An item with the terminals that may follow its production. -/
structure Entry where
  item : Item
  lookaheads : Nat
deriving DecidableEq, Hashable, Inhabited

/-- What may be under way, and what may come next. -/
structure State where
  /-- The items, in their order. -/
  kernel : Array Entry
  /-- The terminals with which something under way goes on. -/
  shiftable : Nat
  /-- The terminals with which something under way goes on or ends. -/
  expected : Nat
deriving Inhabited

/-- The order of items: by production, then by the dot. -/
def Item.before (x y : Item) : Bool :=
  x.production < y.production || (x.production == y.production && x.dot < y.dot)

namespace Table

variable (t : Table)

/-- The terminals that may follow the symbol behind the dot of an entry. -/
def follow (e : Entry) : Nat :=
  match t.next? { e.item with dot := e.item.dot + 1 } with
  | some s => t.first s.symbol
  | none => e.lookaheads

/-- Adds to a kernel what becomes of one entry behind a symbol: the entry itself if the symbol is
its next one, and what its next symbol may start with. -/
def advanceEntry (symbol : Nat) (kernel : Std.HashMap Item Nat) (e : Entry) :
    Std.HashMap Item Nat :=
  match t.next? e.item with
  | none => kernel
  | some s =>
    let add (kernel : Std.HashMap Item Nat) (x : Item) (lookaheads : Nat) :=
      kernel.alter x fun known => some (known.getD 0 ||| lookaheads)
    let kernel :=
      if s.symbol == symbol then add kernel { e.item with dot := e.item.dot + 1 } e.lookaheads
      else kernel
    (t.beginningsWith s.symbol symbol).foldl
      (fun kernel b =>
        add kernel b.item (if b.inherits then b.lookaheads ||| t.follow e else b.lookaheads))
      kernel

/-- The kernel behind a symbol; it is empty if the symbol is not expected. -/
def kernelAfter (kernel : Array Entry) (symbol : Nat) : Array Entry :=
  ((kernel.foldl (t.advanceEntry symbol) ∅).fold
    (fun entries x lookaheads => entries.push ⟨x, lookaheads⟩) #[]).qsort
      fun x y => x.item.before y.item

/-- The kernel before anything is read. -/
def startKernel : Array Entry := #[⟨⟨t.start, 0⟩, single (t.number .endOfText)⟩]

end Table

/-- The state of a kernel. Before anything is read the text may also end: a program may be empty. -/
def State.ofKernel (t : Table) (kernel : Array Entry) : State :=
  let shiftable := kernel.foldl
    (fun known e => known ||| ((t.next? e.item).map fun s => t.first s.symbol).getD 0) 0
  let mayEnd (e : Entry) : Bool := t.isComplete e.item || e.item.dot == 0
  let ended := kernel.foldl
    (fun known e => if mayEnd e then known ||| e.lookaheads else known) 0
  { kernel, shiftable, expected := shiftable ||| ended }

end Nameplate.Tsx
