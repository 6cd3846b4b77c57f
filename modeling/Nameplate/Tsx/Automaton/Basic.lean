import Nameplate.Tsx.Automaton.Action

/-!
# The automaton

The states of a grammar are far more than any text meets, so they are found while a text is read. An
automaton holds the states that were met, each once, and what was found out about them.

* `Automaton.move`: the state behind a symbol;
* `Automaton.actions`: what to do with a terminal.
-/

namespace Nameplate.Tsx

/-- The states met so far. Behind a state and a symbol, `moves` gives the next state; `decisions`
gives what to do in a state with a terminal. -/
structure Automaton where
  states : Array State
  index : Std.HashMap (Array Entry) Nat
  moves : Std.HashMap (Nat × Nat) (Option Nat) := ∅
  decisions : Std.HashMap (Nat × Nat) (List Action) := ∅

namespace Automaton

/-- The automaton before anything is read: its state has the number zero. -/
def fresh (t : Table) : Automaton where
  states := #[.ofKernel t t.startKernel]
  index := (∅ : Std.HashMap (Array Entry) Nat).insert t.startKernel 0

/-- A state by its number. -/
def state (a : Automaton) (s : Nat) : State := a.states.getD s default

/-- The number of the state of a kernel, which is a new one if the kernel was not met. -/
def numberOf (t : Table) (kernel : Array Entry) (a : Automaton) : Nat × Automaton :=
  match a.index[kernel]? with
  | some s => (s, a)
  | none =>
    let s := a.states.size
    (s, { a with
      states := a.states.push (.ofKernel t kernel)
      index := a.index.insert kernel s })

/-- The state behind a symbol, if the symbol may come next. -/
def move (t : Table) (s symbol : Nat) (a : Automaton) : Option Nat × Automaton :=
  match a.moves[(s, symbol)]? with
  | some target => (target, a)
  | none =>
    let kernel := t.kernelAfter (a.state s).kernel symbol
    let (target, a) :=
      if kernel.isEmpty then (none, a)
      else
        let (target, a) := a.numberOf t kernel
        (some target, a)
    (target, { a with moves := a.moves.insert (s, symbol) target })

/-- What to do with a terminal. At the start, the end of the text ends an empty program. -/
def actions (t : Table) (s terminal : Nat) (a : Automaton) : List Action × Automaton :=
  match a.decisions[(s, terminal)]? with
  | some found => (found, a)
  | none =>
    let found :=
      if s == 0 && terminal == t.number .endOfText then [.reduce t.emptyProgram]
      else t.actionsOn (a.state s) terminal
    (found, { a with decisions := a.decisions.insert (s, terminal) found })

end Automaton

end Nameplate.Tsx
