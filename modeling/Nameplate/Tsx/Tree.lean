import Nameplate.Text.Range

/-!
# The syntax tree of a TSX file

A tree records for each node what it is (`Kind`), where it stands (`Point`s, in bytes and rows),
which role it has in its parent (`Field`) and whether something in it could not be parsed.

* `Node.children`, `Node.field?`: the parts of a node;
* `Node.parts`: the named children that are no comments;
* `Node.Flagged`: the error flags of a tree say what its nodes say.
-/

namespace Nameplate.Tsx

open Nameplate.Text (Range)

/-- A place in a source: its byte offset, and the number of line feeds before it. -/
structure Point where
  byte : Nat
  row : Nat
deriving DecidableEq, Repr, Inhabited

/-- What a node is. Phrases that no rule of the matcher distinguishes are `other`, with their
names. -/
inductive Kind where
  /-- The whole file. -/
  | program
  /-- Text that fits no rule. -/
  | error
  | comment
  /-- A word or a mark of punctuation, as it is written. -/
  | token (text : String)
  | identifier
  | propertyIdentifier
  | privateName
  | undefinedWord
  | string
  | template
  | substitution
  | parenthesized
  | arrowFunction
  | functionExpression
  | call
  | arguments
  | member
  | subscript
  | nonNull
  | assignment
  | functionDeclaration
  | lexicalDeclaration
  | declarator
  | exportStatement
  | expressionStatement
  | other (name : String)
deriving DecidableEq, Repr, Inhabited

/-- Whether a kind is one of those that are not distinguished. -/
def Kind.isOther : Kind → Bool
  | other _ => true
  | _ => false

/-- The role of a node in its parent. -/
inductive Field where
  | declaration
  | name
  | value
  | function
  | arguments
  | object
  | property
  | left
  | right
deriving DecidableEq, Repr

/-- What a node says about itself, its children apart. -/
structure Label where
  kind : Kind
  start : Point
  stop : Point
  field : Option Field := none
  /-- Phrases are named; words and marks of punctuation are not. -/
  named : Bool := true
  /-- Comments are extra: they may stand between any two tokens. -/
  extra : Bool := false
  /-- The node was expected at its place and is not in the text. -/
  missing : Bool := false
  /-- The node or one below it is an error or missing. -/
  hasError : Bool := false
deriving DecidableEq, Repr, Inhabited

/-- A node: its label and its children in source order. -/
inductive Node where
  | mk (label : Label) (children : List Node)
deriving Repr, Inhabited

namespace Node

def label : Node → Label
  | .mk l _ => l

def children : Node → List Node
  | .mk _ cs => cs

def kind (n : Node) : Kind := n.label.kind

def start (n : Node) : Point := n.label.start

def stop (n : Node) : Point := n.label.stop

/-- The bytes a node covers. -/
def range (n : Node) : Range := ⟨n.start.byte, n.stop.byte⟩

/-- A node in a role of its parent. -/
def withField (f : Field) : Node → Node
  | .mk l cs => .mk { l with field := some f } cs

/-- The first child in a role. -/
def field? (n : Node) (f : Field) : Option Node :=
  n.children.find? fun c => c.label.field == some f

/-- The named children that are not extra. -/
def parts (n : Node) : List Node :=
  n.children.filter fun c => c.label.named && !c.label.extra

/-- An error node, or one that is missing. -/
def isFault (n : Node) : Bool :=
  n.kind == .error || n.label.missing

end Node

mutual

/-- A node carries the error flag exactly if it is a fault or one of its children carries it, all
the way down. -/
def Node.Flagged : Node → Prop
  | .mk l cs =>
    (l.hasError = true ↔ (l.kind = .error ∨ l.missing = true ∨ anyFlagged cs)) ∧ allFlagged cs

/-- Some node of a list carries the error flag. -/
def anyFlagged : List Node → Prop
  | [] => False
  | n :: ns => n.label.hasError = true ∨ anyFlagged ns

/-- Every tree of a list is flagged. -/
def allFlagged : List Node → Prop
  | [] => True
  | n :: ns => Node.Flagged n ∧ allFlagged ns

end

end Nameplate.Tsx
