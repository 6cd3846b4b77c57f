import Std.Data.HashMap
import Nameplate.Tsx.Grammar.Basic
import Nameplate.Tsx.Grammar.Production

/-!
# The grammar in numbers

For reading, the symbols of the grammar are numbered: first the terminals, then the *heads*, which
are the phrases and the series. Sets of terminals are numbers too: terminal `t` is in the set if bit
`t` is set.

* `Table.ofRules`: the numbered grammar;
* `Table.first`: the terminals that a symbol may start with;
* `Table.beginnings`: with which items a head may start, by the first symbol of the item.
-/

namespace Nameplate.Tsx

/-- A step of a production with its symbol's number. -/
structure NumberedStep extends Scope where
  symbol : Nat
deriving Inhabited

/-- One way to write a head. -/
structure Production where
  head : Nat
  steps : Array NumberedStep
  weight : Int
deriving Inhabited

/-- A production of which the part before the dot is read. -/
structure Item where
  production : Nat
  dot : Nat
deriving DecidableEq, Hashable, Inhabited

/-- A head may start with another head: `lookaheads` may follow the other one, and if `inherits` is
set, so may what follows the first. -/
structure Edge where
  target : Nat
  lookaheads : Nat
  inherits : Bool

/-- An item with which a head may start, behind its first symbol. -/
structure Beginning where
  item : Item
  lookaheads : Nat
  inherits : Bool

/-- The grammar in numbers. -/
structure Table where
  terminals : Array Terminal
  numbers : Std.HashMap Terminal Nat
  heads : Array Symbol
  /-- The last production is the start: it holds the program alone, and its head is none. -/
  productions : Array Production
  /-- The terminals that each head may start with. -/
  firsts : Array Nat
  beginnings : Array (Thunk (Std.HashMap Nat (Array Beginning)))

/-- The set of one terminal. -/
def single (terminal : Nat) : Nat := 1 <<< terminal

namespace Table

/-! ## Numbering -/

/-- The values of a list with their positions, each value where it occurs first. -/
def numbered {α : Type} [BEq α] [Hashable α] (values : List α) : Array α × Std.HashMap α Nat :=
  values.foldl
    (fun (seen, index) x => if index.contains x then (seen, index)
      else (seen.push x, index.insert x seen.size))
    (#[], ∅)

/-- The terminals in their order: identifiers, then the other tokens as they occur in the rules,
comments, marks, and the end of the text. -/
def terminalOrder (rules : List Rule) : List Terminal :=
  let occurring := rules.flatMap Rule.terminals
  let isMark : Terminal → Bool := fun t => match t with
    | .mark _ => true
    | _ => false
  .lexeme .identifier :: occurring.filter (!isMark ·) ++ [.lexeme .comment] ++
    occurring.filter isMark ++ [.mark .htmlComment, .endOfText]

/-- The productions of a head. -/
def productionsOf (numberOf : Symbol → Nat) (head : Nat) (r : Rule) : List Production :=
  (r.alternatives {} true).map fun a =>
    ⟨head, (a.steps.map fun s => ⟨s.toScope, numberOf s.symbol⟩).toArray, a.weight⟩

/-- The productions of a series: two series, or one item. -/
def seriesProductions (numberOf : Symbol → Nat) (head : Nat) (item : Rule) : List Production :=
  let self : NumberedStep := ⟨{}, numberOf (.series item)⟩
  ⟨head, #[self, self], 0⟩ :: productionsOf numberOf head item

/-- The items of all repetitions in some rules, each once. -/
def serialsOf (rules : List (Phrase × Rule)) : List Rule :=
  (rules.flatMap fun x => x.2.serials).eraseDups

/-- The number of a symbol, behind those of the terminals for a phrase, and behind those of the
phrases for a series. -/
def numberOf (terminals : Array Terminal × Std.HashMap Terminal Nat) (phrases : Nat)
    (serials : List Rule) : Symbol → Nat
  | .terminal t => terminals.2.getD t 0
  | .phrase p => terminals.1.size + p.ctorIdx
  | .series item => terminals.1.size + phrases + serials.idxOf item

/-- The productions of all heads: of the phrases, and of the series behind them. -/
def written (numberOf : Symbol → Nat) (rules : List (Phrase × Rule)) (serials : List Rule) :
    List Production :=
  (rules.zipIdx.flatMap fun (x, head) => productionsOf numberOf head x.2) ++
    serials.zipIdx.flatMap fun (item, i) => seriesProductions numberOf (rules.length + i) item

/-! ## First terminals -/

/-- Heads with the symbols that their productions start with. -/
def cornersOf (productions : List Production) : Array (Nat × Nat) :=
  (productions.filterMap fun p => p.steps[0]?.map fun s => (p.head, s.symbol)).toArray

/-- The terminals that a symbol may start with, given those of the heads. -/
def firstIn (terminals : Nat) (firsts : Array Nat) (symbol : Nat) : Nat :=
  if symbol < terminals then single symbol else firsts.getD (symbol - terminals) 0

/-- Adds to the first terminals of each head those of the symbols that its productions start
with. -/
def widen (terminals : Nat) (corners : Array (Nat × Nat)) (firsts : Array Nat) : Array Nat :=
  corners.foldl (fun f (head, symbol) => f.modify head (· ||| firstIn terminals f symbol)) firsts

/-- Repeats a step until it changes nothing, at most `fuel` times. -/
def stable {α : Type} [BEq α] (step : α → α) : Nat → α → α
  | 0, x => x
  | fuel + 1, x =>
    let y := step x
    if x == y then x else stable step fuel y

/-! ## Beginnings -/

/-- The edges from each head. -/
def edges (terminals : Nat) (firsts : Array Nat) (heads : Nat) (productions : Array Production) :
    Array (Array Edge) :=
  productions.foldl
    (fun es p =>
      match p.steps[0]?, p.steps[1]? with
      | some s, next =>
        if s.symbol < terminals then es
        else
          es.modify p.head (·.push
            { target := s.symbol - terminals
              lookaheads := (next.map fun n => firstIn terminals firsts n.symbol).getD 0
              inherits := next.isNone })
      | none, _ => es)
    (Array.replicate heads #[])

/-- Follows edges until nothing new is found: what may stand behind a head that another starts
with. The numbers of heads and terminals bound how often something new is found. -/
def spread (es : Array (Array Edge)) :
    Nat → List Edge → Std.HashMap Nat Edge → Std.HashMap Nat Edge
  | 0, _, found => found
  | _, [], found => found
  | fuel + 1, e :: todo, found =>
    let old := found[e.target]?
    let known := (old.map Edge.lookaheads).getD 0
    let inherited := (old.map Edge.inherits).getD false
    let now : Edge := ⟨e.target, known ||| e.lookaheads, inherited || e.inherits⟩
    if old.isSome && now.lookaheads == known && now.inherits == inherited then
      spread es fuel todo found
    else
      let more := (es.getD e.target #[]).toList.map fun f =>
        if f.inherits then ⟨f.target, f.lookaheads ||| now.lookaheads, now.inherits⟩ else f
      spread es fuel (more ++ todo) (found.insert e.target now)

/-- With which items a head may start, by the first symbol of the item. -/
def beginningsOf (es : Array (Array Edge)) (fuel : Nat) (byHead : Array (Array Nat))
    (productions : Array Production) (head : Nat) : Std.HashMap Nat (Array Beginning) :=
  (spread es fuel [⟨head, 0, true⟩] ∅).fold
    (fun groups h e =>
      (byHead.getD h #[]).foldl
        (fun groups p =>
          match (productions.getD p default).steps[0]? with
          | some s =>
            groups.alter s.symbol fun group =>
              some ((group.getD #[]).push ⟨⟨p, 1⟩, e.lookaheads, e.inherits⟩)
          | none => groups)
        groups)
    ∅

/-! ## The table -/

/-- The grammar of a list of rules in the order of their phrases. -/
def ofSorted (rules : List (Phrase × Rule)) : Table :=
  let terminals := numbered (terminalOrder (rules.map Prod.snd))
  let serials := serialsOf rules
  let heads := rules.map (fun x => Symbol.phrase x.1) ++ serials.map Symbol.series
  let numberOf := numberOf terminals rules.length serials
  let written := written numberOf rules serials
  let start : Production := ⟨heads.length, #[⟨{}, numberOf (.phrase .program)⟩], 0⟩
  let productions := (written ++ [start]).toArray
  let firsts :=
    stable (widen terminals.1.size (cornersOf written)) heads.length
      (Array.replicate heads.length 0)
  let es := edges terminals.1.size firsts heads.length written.toArray
  let byHead := productions.zipIdx.foldl (fun b (p, i) => b.modify p.head (·.push i))
    (Array.replicate heads.length #[])
  let fuel := heads.length * heads.length * (terminals.1.size + 2)
  { terminals := terminals.1
    numbers := terminals.2
    heads := heads.toArray
    productions, firsts
    beginnings := (List.range heads.length).toArray.map fun head =>
      Thunk.mk fun _ => beginningsOf es fuel byHead productions head }

/-- The grammar of a list of rules, the program's among them. -/
def ofRules (rules : List (Phrase × Rule)) : Table :=
  ofSorted (rules.mergeSort fun x y => x.1.ctorIdx ≤ y.1.ctorIdx)

variable (t : Table)

/-- The number of a terminal. -/
def number (x : Terminal) : Nat := t.numbers.getD x 0

/-- The symbol is a terminal. -/
def isTerminal (symbol : Nat) : Bool := symbol < t.terminals.size

/-- The terminals that a symbol may start with. -/
def first (symbol : Nat) : Nat := firstIn t.terminals.size t.firsts symbol

def production (p : Nat) : Production := t.productions.getD p default

/-- The number of the start, which is the last production. -/
def start : Nat := t.productions.size - 1

/-- The phrase of a head, if it is one. -/
def phrase? (head : Nat) : Option Phrase :=
  match t.heads[head]? with
  | some (.phrase p) => some p
  | _ => none

/-- The items with which a symbol may start, behind a first symbol. -/
def beginningsWith (symbol first : Nat) : Array Beginning :=
  if t.isTerminal symbol then #[]
  else
    match t.beginnings[symbol - t.terminals.size]? with
    | some groups => groups.get.getD first #[]
    | none => #[]

/-- The step behind the dot of an item, if there is one. -/
def next? (x : Item) : Option NumberedStep := (t.production x.production).steps[x.dot]?

/-- The step before the dot of an item. -/
def last? (x : Item) : Option NumberedStep :=
  if x.dot = 0 then none else (t.production x.production).steps[x.dot - 1]?

/-- The production of the item is read to its end. -/
def isComplete (x : Item) : Bool := (t.production x.production).steps.size ≤ x.dot

end Table

/-- The grammar of a file in numbers. -/
def table : Table := .ofRules Grammar.rules

end Nameplate.Tsx
