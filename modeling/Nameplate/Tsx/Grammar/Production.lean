import Nameplate.Tsx.Grammar.Rule

/-!
# Productions

A rule with choices stands for many plain sequences of symbols, its alternatives. A repetition is a
symbol of its own: a series is two series one after the other, or one item. Each step of an
alternative remembers the annotations that are in force behind it.

* `Rule.alternatives`: the plain sequences of a rule;
* `Rule.serials`: the items of the repetitions in a rule;
* `Production`: a symbol with one of its alternatives.
-/

namespace Nameplate.Tsx

/-- A part of a sequence. -/
inductive Symbol where
  | terminal (t : Terminal)
  | phrase (p : Phrase)
  /-- One or more of the item. -/
  | series (item : Rule)
deriving DecidableEq

/-- The annotations around a rule, the innermost of each sort. -/
structure Scope where
  strength : Option Strength := none
  side : Option Side := none
  role : Option Field := none
  kind : Option Kind := none

/-- A symbol with the annotations that are in force behind it. -/
structure Step extends Scope where
  symbol : Symbol

/-- A plain sequence of symbols. -/
structure Alternative where
  steps : List Step
  /-- How much a reading counts more, or less, that uses the alternative. -/
  weight : Int := 0

namespace Alternative

/-- Of two weights that meet in one alternative, the larger one in size counts. -/
def dominant (m n : Int) : Int :=
  if m.natAbs < n.natAbs then n else m

/-- One alternative after the other. -/
def append (a b : Alternative) : Alternative :=
  ⟨a.steps ++ b.steps, dominant a.weight b.weight⟩

/-- Changes the last step. -/
def mapLast (f : Step → Step) (a : Alternative) : Alternative :=
  match a.steps.reverse with
  | [] => a
  | s :: before => { a with steps := (f s :: before).reverse }

end Alternative

namespace Rule

/-- The plain sequences of a rule. Behind the last step of an annotated part the annotation of what
is around it is in force again, unless the sequence ends there. -/
def alternatives (scope : Scope) (final : Bool) : Rule → List Alternative
  | terminal t => [⟨[⟨scope, .terminal t⟩], 0⟩]
  | phrase p => [⟨[⟨scope, .phrase p⟩], 0⟩]
  | empty => [⟨[], 0⟩]
  | both r s =>
    let seconds := s.alternatives scope final
    (r.alternatives scope false).flatMap fun a => seconds.map a.append
  | either r s => r.alternatives scope final ++ s.alternatives scope final
  | series r => [⟨[⟨scope, .series r⟩], 0⟩]
  | strength x r =>
    let inner := r.alternatives { scope with strength := some x } final
    if final then inner else inner.map (·.mapLast fun s => { s with strength := scope.strength })
  | side x r =>
    let inner := r.alternatives { scope with side := some x } final
    if final then inner else inner.map (·.mapLast fun s => { s with side := scope.side })
  | weight n r =>
    (r.alternatives scope final).map fun a => { a with weight := Alternative.dominant n a.weight }
  | role f r => r.alternatives { scope with role := some f } final
  | kind k r => r.alternatives { scope with kind := some k } final

/-- The items of the repetitions in a rule, the inner ones first. -/
def serials : Rule → List Rule
  | terminal _ | phrase _ | empty => []
  | both r s | either r s => r.serials ++ s.serials
  | series r => r.serials ++ [r]
  | strength _ r | side _ r | weight _ r | role _ r | kind _ r => r.serials

/-- The terminals of a rule, in the order in which they occur. -/
def terminals : Rule → List Terminal
  | terminal t => [t]
  | phrase _ | empty => []
  | both r s | either r s => r.terminals ++ s.terminals
  | series r | strength _ r | side _ r | weight _ r | role _ r | kind _ r => r.terminals

end Rule

end Nameplate.Tsx
