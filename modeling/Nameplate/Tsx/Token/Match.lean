import Nameplate.Tsx.Automaton.Table
import Nameplate.Tsx.Token.Basic
import Nameplate.Tsx.Token.Lexeme

/-!
# Reading a token by its pattern

All tokens that are expected at a place are read together, character by character; white space
may come before those that need not be adjacent. The longest token wins, except that a token of a
higher rank ends before one of a lower rank goes on, and that white space ends a token.

* `Form`: what is to be known of a terminal for this;
* `Source.token?`: the token at a place.
-/

namespace Nameplate.Tsx

/-- What is to be known of a terminal to read it by its pattern. -/
structure Form where
  pattern : Pattern
  isAdjacent : Bool
  rank : Int
  exactness : Nat
deriving Inhabited

/-- A token under way, with what is still to be read of it. -/
structure Thread where
  terminal : Nat
  pattern : Pattern
deriving DecidableEq

/-- The forms of the terminals by number; those without a pattern have none. -/
def forms : Array (Option Form) :=
  table.terminals.map fun t => t.pattern?.map fun p => ⟨p, t.isAdjacent, t.rank, t.exactness⟩

namespace Thread

/-- The form of the terminal of a thread. -/
def formOf (terminal : Nat) : Form := ((forms[terminal]?).join).getD default

def rank (t : Thread) : Int := (formOf t.terminal).rank

/-- What becomes of a thread behind a character. -/
def after (c : Char) (t : Thread) : List Thread :=
  (t.pattern.after c).map (⟨t.terminal, ·⟩)

/-- Of two tokens that end at the same place, the first one wins. -/
def wins (x y : Nat) : Bool :=
  let f := formOf x
  let g := formOf y
  g.rank < f.rank || (f.rank == g.rank &&
    (g.exactness < f.exactness || (f.exactness == g.exactness && x < y)))

/-- The terminal that ends here, if any thread is at its end. -/
def ended? (live : List Thread) : Option Nat :=
  live.foldl
    (fun found t =>
      if !t.pattern.nullable then found
      else match found with
        | none => some t.terminal
        | some x => if wins t.terminal x then some t.terminal else found)
    none

/-- The highest rank of some threads. -/
def highest? (threads : List Thread) : Option Int :=
  threads.foldl
    (fun found t => match found with
      | none => some t.rank
      | some r => if r < t.rank then some t.rank else found)
    none

/-- A token that ends here is not to be read further. `going` are the threads that go on, `gap`
tells that white space may come here and `blank` that the next character is such. -/
def endsBefore (ended : Nat) (going : List Thread) (gap blank : Bool) : Bool :=
  let r := (formOf ended).rank
  let highest := match highest? going with
    | some h => if blank && h < 0 then 0 else h
    | none => 0
  highest < r || (highest == r &&
    (going.isEmpty || (gap && !going.any fun t => t.terminal == ended)))

end Thread

namespace Source

/-- Reads on from `i`: `live` are the tokens under way, which started at `start`; `free` are those
that may start behind white space. White space may come at `i` if `gap` is set, and the end of the
text if `ending` is. -/
def tokenFrom (s : Source) (free : List Thread) (endExpected : Bool) (i start : Nat)
    (live : List Thread) (gap ending : Bool) (best : Option Token) : Option Token :=
  let ended := Thread.ended? live
  let best := match ended with
    | some t => some ⟨t, start, i, false⟩
    | none => best
  if h : i < s.chars.size then
    let c := s.chars[i]
    let going := (live.flatMap (Thread.after c)).eraseDups
    let blank := gap && isGap c
    if going.isEmpty && !blank then best
    else if ended.any fun t => Thread.endsBefore t going gap blank then best
    else
      let onlyBlank := going.isEmpty
      tokenFrom s free endExpected (i + 1) (if onlyBlank then i + 1 else start)
        (if blank then going ++ free else going) blank (endExpected && onlyBlank) best
  else if ending then some ⟨table.number .endOfText, i, i, false⟩
  else best
termination_by s.chars.size - i

/-- The token at `i` of those in a set of terminals. -/
def tokenOf? (s : Source) (i : Nat) (expected : Nat) : Option Token :=
  let threads := (List.range table.terminals.size).filterMap fun t =>
    if expected.testBit t then ((forms[t]?).join).map fun f => (f.isAdjacent, Thread.mk t f.pattern)
    else none
  let free := (threads.filter (!·.1)).map Prod.snd
  let endExpected := expected.testBit (table.number .endOfText)
  s.tokenFrom free endExpected i i (threads.map Prod.snd) (!free.isEmpty) endExpected none

end Source

end Nameplate.Tsx
