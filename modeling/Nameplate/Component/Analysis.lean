import Nameplate.Component.Assignment
import Nameplate.Tsx.Parse

/-!
# Finding the components of a file

`analyzeTree` gives the components of a tree in the order of their declarations, or the first
fault of a tree that has one. A name that is declared twice counts where it is declared first.

* `firstFaulty`: the first node that is an error or missing;
* `insertionPoint`: where a statement about a component may follow it;
* `analyzeTree`, `analyzeText`: the components of a tree, and of a text.
-/

namespace Nameplate

open Text (Range)
open Tsx (Node Kind)

/-! ## Faults -/

/-- Why a text has no tree without faults. -/
inductive Fault where
  /-- Text that fits no rule. -/
  | unexpected (range : Range)
  /-- A token that should stand at an offset. -/
  | missing (token : String) (offset : Nat)
deriving DecidableEq, Repr

/-- What is wrong, in words. -/
def Fault.describe : Fault → String
  | unexpected _ => "unexpected syntax"
  | missing token _ => "missing `" ++ token ++ "`"

/-- Where it is wrong. -/
def Fault.range : Fault → Range
  | unexpected r => r
  | missing _ offset => .empty offset

/-- The name of a kind in messages. -/
def kindName : Kind → String
  | .program => "program"
  | .error => "ERROR"
  | .comment => "comment"
  | .token text => text
  | .identifier => "identifier"
  | .propertyIdentifier => "property_identifier"
  | .privateName => "private_property_identifier"
  | .undefinedWord => "undefined"
  | .string => "string"
  | .template => "template_string"
  | .substitution => "template_substitution"
  | .parenthesized => "parenthesized_expression"
  | .arrowFunction => "arrow_function"
  | .functionExpression => "function_expression"
  | .call => "call_expression"
  | .arguments => "arguments"
  | .member => "member_expression"
  | .subscript => "subscript_expression"
  | .nonNull => "non_null_expression"
  | .assignment => "assignment_expression"
  | .functionDeclaration => "function_declaration"
  | .lexicalDeclaration => "lexical_declaration"
  | .declarator => "variable_declarator"
  | .exportStatement => "export_statement"
  | .expressionStatement => "expression_statement"
  | .other name => name

mutual

/-- The first node in reading order that is an error or missing; subtrees without the error flag
are passed over. -/
def firstFaulty : Node → Option Node
  | .mk l cs =>
    if (Node.mk l cs).isFault then some (.mk l cs)
    else if l.hasError then firstFaultyOf cs
    else none

/-- The first such node of a list of trees. -/
def firstFaultyOf : List Node → Option Node
  | [] => none
  | n :: ns => (firstFaulty n).orElse fun _ => firstFaultyOf ns

end

/-- The fault that a tree with an error is reported for. -/
def faultOf (root : Node) : Fault :=
  match firstFaulty root with
  | some n =>
    if n.label.missing then .missing (kindName n.kind) n.start.byte else .unexpected n.range
  | none => .unexpected (.empty 0)

/-! ## Components -/

/-- The statements among the children of the root, each with the nodes behind it. -/
def statementsOf : List Node → List (Node × List Node)
  | [] => []
  | n :: rest =>
    if n.label.named && !n.label.extra then (n, rest) :: statementsOf rest else statementsOf rest

/-- The end of the last of the comments that follow at once and start on a row, or `stop`. -/
def pastComments (row stop : Nat) : List Node → Nat
  | [] => stop
  | n :: rest =>
    if n.label.extra && n.start.row == row then pastComments row n.stop.byte rest else stop

/-- The offset behind a statement and the comments that start on its last row. -/
def insertionPoint (statement : Node) (following : List Node) : Nat :=
  pastComments statement.stop.row statement.stop.byte following

/-- The first declaration of each name, with its insertion point. -/
def firstOfEachName : List (Declaration × Nat) → List (Declaration × Nat)
  | [] => []
  | d :: rest => d :: (firstOfEachName rest).filter fun e => e.1.name != d.1.name

/-- The candidate of a declaration among the assignments of its file: those that start at or
behind its end are its own, the first to the display name is its name. -/
def candidateOf (assignments : List PropertyAssignment) (d : Declaration) (insertionPoint : Nat) :
    Candidate :=
  let own := assignments.filter fun a => a.object == d.name && d.range.stop ≤ a.range.start
  { name := d.name
    form := d.form
    range := d.range
    insertionPoint
    existing := (own.find? fun a => a.property == displayNameProperty).map fun a =>
      ⟨a.range, a.value⟩
    siblings := (own.filter fun a => a.property != displayNameProperty).map fun a =>
      ⟨a.property, a.range⟩ }

/-- The components of a tree in the order of their declarations, or its first fault. -/
def analyzeTree (root : Node) (source : List Char) : Except Fault (List Candidate) :=
  if root.label.hasError then .error (faultOf root)
  else
    let statements := statementsOf root.children
    let declarations := statements.flatMap fun (s, following) =>
      (declarationsOf source s).map fun d => (d, insertionPoint s following)
    let assignments := statements.filterMap fun (s, _) => assignmentOf source s
    .ok ((firstOfEachName declarations).map fun (d, i) => candidateOf assignments d i)

/-- The components of a text. -/
def analyzeText (text : List Char) : Except Fault (List Candidate) :=
  analyzeTree (Tsx.parse text) text

end Nameplate
