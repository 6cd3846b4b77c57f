import Nameplate.Tsx.Reading.Stack
import Nameplate.Tsx.Token.Next

/-!
# Reading a text

All readings of a text that are possible so far are kept side by side, each as a stack (`Head`). One
that cannot go on is given up as long as another can. Where several readings come to the end, the
better derivation is chosen.

* `Reading.reduce`: a production ends on a stack;
* `Reading.advance`: a reading takes its next token;
* `Reading.condense`: readings that agree are joined, and the others put in order;
* `Reading.round`: all readings take a token.
-/

namespace Nameplate.Tsx

/-- How it stands with a reading. -/
inductive Status where
  | active
  /-- Nothing can be done with its next token. -/
  | paused
  /-- It has come to its end, or went on as others. -/
  | halted
deriving DecidableEq, Inhabited

/-- A reading: the top of its stack. -/
structure Head where
  vertex : Nat
  status : Status := .active
deriving Inhabited

/-- The readings of a text, and what was found out on the way. -/
structure Reading where
  automaton : Automaton
  /-- The tokens that were read, by place and state. -/
  tokens : Std.HashMap (Nat × Nat) (Option Token) := ∅
  graph : Stacks := .initial
  heads : Array Head := #[⟨0, .active⟩]
  /-- The derivation of the program, with the comments around it. -/
  finished : Option (Derivation × List Derivation) := none
  /-- The furthest place that a reading has come to. -/
  furthest : Nat := 0

namespace Reading

/-- The readings before anything is read. -/
def start : Reading := { automaton := .fresh table }

/-! ## Access -/

/-- The state behind a symbol. -/
def move (state symbol : Nat) : StateM Reading (Option Nat) :=
  modifyGet fun ⟨automaton, tokens, graph, heads, finished, furthest⟩ =>
    let (target, automaton) := automaton.move table state symbol
    (target, ⟨automaton, tokens, graph, heads, finished, furthest⟩)

/-- What to do with a terminal in a state. -/
def actions (state terminal : Nat) : StateM Reading (List Action) :=
  modifyGet fun ⟨automaton, tokens, graph, heads, finished, furthest⟩ =>
    let (found, automaton) := automaton.actions table state terminal
    (found, ⟨automaton, tokens, graph, heads, finished, furthest⟩)

/-- The next token from a place on in a state. -/
def token? (s : Source) (place state : Nat) : StateM Reading (Option Token) :=
  modifyGet fun ⟨automaton, tokens, graph, heads, finished, furthest⟩ =>
    match tokens[(place, state)]? with
    | some found => (found, ⟨automaton, tokens, graph, heads, finished, furthest⟩)
    | none =>
      let (found, automaton) := s.next? place state automaton
      (found, ⟨automaton, tokens.insert (place, state) found, graph, heads, finished, furthest⟩)

/-- Changes the stacks. -/
def onStacks {α : Type} (f : Stacks → α × Stacks) : StateM Reading α :=
  modifyGet fun ⟨automaton, tokens, graph, heads, finished, furthest⟩ =>
    let (x, graph) := f graph
    (x, ⟨automaton, tokens, graph, heads, finished, furthest⟩)

/-- Changes the heads. -/
def onHeads (f : Array Head → Array Head) : StateM Reading Unit :=
  modify fun ⟨automaton, tokens, graph, heads, finished, furthest⟩ =>
    ⟨automaton, tokens, graph, f heads, finished, furthest⟩

/-- The top of a reading's stack. -/
def top (r : Reading) (i : Nat) : Vertex := r.graph.vertex (r.heads.getD i default).vertex

/-- Sets how it stands with a reading. -/
def setStatus (i : Nat) (status : Status) : StateM Reading Unit :=
  onHeads (·.modify i fun h => { h with status })

/-- A derivation on top of a reading's stack. -/
def pushOn (i : Nat) (d : Derivation) (state : Nat) : StateM Reading Unit := do
  let v := ((← get).heads.getD i default).vertex
  let w ← onStacks (·.push v d state)
  onHeads (·.modify i fun h => { h with vertex := w })

/-- Two readings may be joined: both are active and agree. -/
def joinable (g : Stacks) (x y : Head) : Bool :=
  x.status == .active && y.status == .active && g.agree x.vertex y.vertex

/-! ## Ends of productions -/

/-- The most readings that there may be while productions end. -/
def maxHeads : Nat := 10

/-- The best of several derivations of a production, each with the extra tokens behind it, which do
not belong to it. -/
def choose (place production : Nat) :
    List (List Derivation) → Option (Derivation × List Derivation)
  | [] => none
  | trees :: rest =>
    let split (trees : List Derivation) : Derivation × List Derivation :=
      let trailing := (trees.reverse.takeWhile fun d => d.stem.extra).reverse
      (.ofParts place production (trees.take (trees.length - trailing.length)), trailing)
    some <| rest.foldl
      (fun best trees =>
        let other := split trees
        if best.1.better other.1 then other else best)
      (split trees)

/-- A production ends on a stack from whose top the ways down to `below` are given; the reading that
this gives is joined with another one, apart from the one at `origin`, or is a new one. -/
def reduceTo (origin production below : Nat) (ways : List (List Derivation)) :
    StateM Reading Unit := do
  let v := (← get).graph.vertex below
  match choose v.position production ways with
  | none => pure ()
  | some (d, trailing) =>
    match ← move v.state d.stem.symbol with
    | none => pure ()
    | some state =>
      let vertex ← onStacks fun g =>
        trailing.foldl (fun (w, g) x => g.push w x state) (g.push below d state)
      let r ← get
      let partner := (List.range r.heads.size).find? fun j =>
        j != origin && joinable r.graph (r.heads.getD j default) ⟨vertex, .active⟩
      match partner with
      | some j =>
        let w := (r.heads.getD j default).vertex
        onStacks fun g => ((), g.join w vertex)
      | none => onHeads (·.push ⟨vertex, .active⟩)

/-- A production ends on the stack of a reading. Gives the number of the first new reading. -/
def reduce (i production : Nat) : StateM Reading (Option Nat) := do
  let r ← get
  let before := r.heads.size
  let halted := (r.heads.filter fun h => h.status == .halted).size
  let groups := r.graph.pathsDown (r.heads.getD i default).vertex
    (table.production production).steps.size
  for (below, ways) in groups do
    if (← get).heads.size ≤ maxHeads + halted then
      reduceTo i production below ways
  pure (if before < (← get).heads.size then some before else none)

/-! ## Tokens -/

/-- The program ends: its derivation is kept if it is the best one so far. -/
def accept (i : Nat) : StateM Reading Unit := do
  let r ← get
  let g := r.graph
  let all := g.derivations (g.vertices.size + 1) (r.heads.getD i default).vertex []
  match all.find? fun d => !d.stem.extra with
  | none => pure ()
  | some d =>
    match r.finished with
    | none => modify fun r => { r with finished := some (d, all) }
    | some (best, _) =>
      if best.better d then modify fun r => { r with finished := some (d, all) }
  setStatus i .halted

/-- A reading becomes the one with another number, which goes away. -/
def renumber (i j : Nat) : StateM Reading Unit :=
  onHeads fun heads => (heads.setIfInBounds i (heads.getD j default)).eraseIdxIfInBounds j

/-- What is left to do for a token after some actions. -/
inductive Outcome where
  /-- The token is read, or the reading has come to its end. -/
  | settled
  /-- Productions have ended; the last ones gave a new reading with this number, or only such as
  were joined with others. -/
  | reduced (last : Option Nat)
  /-- Nothing can be done. -/
  | stuck

/-- Tries actions in their order. -/
def perform (i : Nat) (token : Token) (presence : Presence) :
    List Action → Outcome → StateM Reading Outcome
  | [], outcome => pure outcome
  | .shift :: _, _ => do
    match ← move ((← get).top i).state token.terminal with
    | some state => pushOn i (.ofToken token false presence) state
    | none => setStatus i .paused
    pure .settled
  | .accept :: _, _ => do
    accept i
    pure .settled
  | .reduce p :: rest, outcome => do
    let new ← reduce i p
    let last := match outcome with
      | .reduced last => last
      | _ => none
    perform i token presence rest (.reduced (new.orElse fun _ => last))

/-- A reading goes on with a token, ending productions as long as the token asks for it. A keyword
with which nothing can be done is read as a name. -/
def consume (i : Nat) (presence : Presence) : Nat → Token → StateM Reading Unit
  | 0, _ => setStatus i .paused
  | fuel + 1, token => do
    let state := ((← get).top i).state
    if (table.terminals.getD token.terminal .endOfText).isExtra then
      pushOn i (.ofToken token true presence) state
    else
      match ← perform i token presence (← actions state token.terminal) .stuck with
      | .settled => pure ()
      | .reduced (some last) => do
        renumber i last
        consume i presence fuel token
      | .reduced none => setStatus i .halted
      | .stuck =>
        let name := table.number (.lexeme .identifier)
        if token.isWord && token.terminal != name && !(← actions state name).isEmpty then
          consume i presence fuel { token with terminal := name }
        else setStatus i .paused

/-- The number of ends of productions that one token may ask for. -/
def maxReductions (s : Source) : Nat := 1000 + 2 * s.size

/-- A reading takes its next token. -/
def advance (s : Source) (i : Nat) : StateM Reading Unit := do
  let v := (← get).top i
  match ← token? s v.position v.state with
  | none => setStatus i .paused
  | some token => consume i .expected (maxReductions s) token

/-! ## Rounds -/

/-- A reading takes tokens until it has gone as far as the others. -/
def catchUp (s : Source) (i : Nat) : Nat → StateM Reading Unit
  | 0 => pure ()
  | fuel + 1 => do
    if ((← get).heads.getD i default).status == .active then
      advance s i
      let r ← get
      let place := (r.top i).position
      if r.furthest < place || (0 < i && place == r.furthest) then
        modify fun r => { r with furthest := place }
      else catchUp s i fuel

/-- All readings from the one with number `i` on take tokens, those that come up on the way too. -/
def catchUpFrom (s : Source) : Nat → Nat → StateM Reading Unit
  | 0, _ => pure ()
  | fuel + 1, i => do
    if i < (← get).heads.size then
      catchUp s i (2 * s.size + 10)
      catchUpFrom s fuel (i + 1)

/-- Puts a reading among others that are in order: one that is paused gives way to one that is not,
two that agree are joined, and otherwise the heavier one comes first. -/
def place (g : Stacks) (h : Head) : List Head → List Head × Stacks
  | [] => ([h], g)
  | x :: rest =>
    if x.status != .paused && h.status == .paused then (x :: rest, g)
    else if x.status == .paused && h.status != .paused then place g h rest
    else if joinable g x h then (x :: rest, g.join x.vertex h.vertex)
    else if (g.vertex x.vertex).weight < (g.vertex h.vertex).weight then
      let (rest, g) := place g x rest
      (h :: rest, g)
    else
      let (rest, g) := place g h rest
      (x :: rest, g)

/-- The most readings that go into the next round. -/
def maxReadings : Nat := 6

/-- Drops the readings that have come to their end, joins those that agree and puts the others in
order. -/
def condense : StateM Reading Unit :=
  modify fun ⟨automaton, tokens, graph, heads, finished, furthest⟩ =>
    let live := (heads.filter fun h => h.status != .halted).toList
    let (heads, graph) := live.foldl (fun (kept, g) h => place g h kept) ([], graph)
    ⟨automaton, tokens, graph, (heads.take maxReadings).toArray, finished, furthest⟩

/-- All readings take a token. -/
def round (s : Source) : StateM Reading Unit := do
  catchUpFrom s (s.size + 1000) 0
  condense

/-- All readings are paused, or there is none. -/
def isStuck (r : Reading) : Bool := r.heads.all fun h => h.status == .paused

end Reading

end Nameplate.Tsx
