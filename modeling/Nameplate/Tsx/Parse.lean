import Nameplate.Tsx.Reading.Run

/-!
# From a source to its tree

A derivation becomes a tree: phrases are nodes, tokens are leaves, and the parts of what is no node
of its own stand in its place. A text that cannot be read is a single error.

* `Terminal.kind?`: what a token is in the tree;
* `Derivation.nodes`: the nodes of a derivation;
* `parse`: the tree of a text.
-/

namespace Nameplate.Tsx

/-- What a token is in the tree, and whether it is a phrase of its own. Semicolons that are not
written are not in the tree. -/
def Terminal.kind? : Terminal → Option (Kind × Bool)
  | literal "undefined" => some (.undefinedWord, true)
  | literal text =>
    if namedLiterals.contains text then some (.other text, true) else some (.token text, false)
  | lexeme .identifier => some (.identifier, true)
  | lexeme .privateName => some (.privateName, true)
  | lexeme .comment | mark .htmlComment => some (.comment, true)
  | lexeme .regexEnd => some (.token "/", false)
  | lexeme l => some (.other l.name, true)
  | mark .semicolon | mark .signatureEnd => none
  | mark .conditional => some (.token "?", false)
  | mark .templateText => some (.other "string_fragment", true)
  | mark .jsxText => some (.other "jsx_text", true)
  | endOfText => none

namespace Node

/-- Gives a role to the first node that is not extra. -/
def giveRole (f : Field) : List Node → List Node
  | [] => []
  | n :: rest => if n.label.extra then n :: giveRole f rest else n.withField f :: rest

/-- Some node of a list carries the error flag. -/
def anyError (nodes : List Node) : Bool := nodes.any fun n => n.label.hasError

end Node

namespace Stem

/-- What a derivation is in the tree, and whether it is named; `none` if its parts stand in its
place. -/
def kind? (d : Stem) : Option (Kind × Bool) :=
  if d.presence == .unexpected then some (.error, true)
  else
    match table.terminals[d.symbol]? with
    | some t => t.kind?
    | none =>
      ((table.phrase? (d.symbol - table.terminals.size)).bind Phrase.kind?).map fun k => (k, true)

/-- The steps of the production. -/
def steps (d : Stem) : List NumberedStep :=
  match d.production with
  | some p => (table.production p).steps.toList
  | none => []

/-- The label of a node over its children. -/
def label (s : Source) (d : Stem) (kind : Kind) (named : Bool) (role : Option Field)
    (children : List Node) : Label where
  kind
  start := s.point d.start
  stop := s.point d.stop
  field := role
  named
  extra := d.extra
  missing := d.presence == .missing
  hasError := d.presence != .expected || Node.anyError children

end Stem

namespace Derivation

mutual

/-- The nodes of a derivation that has a role and a kind in its production, before other nodes. -/
def nodesBefore (s : Source) (role : Option Field) (kind : Option Kind) :
    Derivation → List Node → List Node
  | .mk d parts, rest =>
    match kind.elim d.kind? fun k => some (k, true) with
    | some (k, named) =>
      let children := partsBefore s d.steps parts []
      .mk (d.label s k named role children) children :: rest
    | none =>
      match role with
      | none => partsBefore s d.steps parts rest
      | some f => Node.giveRole f (partsBefore s d.steps parts []) ++ rest

/-- The nodes of the parts of a production, before other nodes. Extra tokens belong to no step. -/
def partsBefore (s : Source) : List NumberedStep → List Derivation → List Node → List Node
  | _, [], rest => rest
  | steps, d :: parts, rest =>
    if d.stem.extra then nodesBefore s none none d (partsBefore s steps parts rest)
    else
      match steps with
      | [] => nodesBefore s none none d (partsBefore s [] parts rest)
      | step :: steps => nodesBefore s step.role step.kind d (partsBefore s steps parts rest)

end

/-- The nodes of the derivation of a program: what it consists of. -/
def topNodes (s : Source) (d : Derivation) : List Node :=
  if d.stem.extra then d.nodesBefore s none none [] else partsBefore s d.stem.steps d.parts []

end Derivation

/-- The tree of a text. -/
def parse (text : List Char) : Node :=
  let s := Source.ofList text
  let root : Label := { kind := .program, start := s.point 0, stop := s.point s.size }
  match s.derivations? with
  | some ds =>
    let children := ds.flatMap (Derivation.topNodes s)
    .mk { root with hasError := Node.anyError children } children
  | none => .mk { root with kind := .error, hasError := true } []

end Nameplate.Tsx
