import Nameplate.Component.Candidate
import Nameplate.Tsx.Tree

/-!
# Which declarations are components

Only statements at the top of a file count, on their own or behind `export`: function
declarations, and names declared by `const` whose value is a function, or a call with exactly one
function among its arguments, the last one.

The nodes of a tree lie between characters of its text. `sourceText` is total all the same: a node
that does not lie so has the empty text.
-/

namespace Nameplate

open Text (Range)
open Tsx (Node Kind)

/-- The source text of a node that lies between characters. -/
def sourceText (source : List Char) (n : Node) : String :=
  String.ofList ((Text.slice source n.range).getD [])

/-- A function value: an arrow function or a function expression. The word `function` is a node as
well, but it is never a value or an argument, since words are not named. -/
def isFunctionValue (n : Node) : Bool :=
  n.kind == .arrowFunction || n.kind == .functionExpression

mutual

/-- A node without the parentheses around it. -/
def unwrap : Node → Node
  | .mk l children =>
    if l.kind == .parenthesized then (unwrapFirst children).getD (.mk l children)
    else .mk l children

/-- The first part of a list of children, without the parentheses around it. -/
def unwrapFirst : List Node → Option Node
  | [] => none
  | n :: rest =>
    if n.label.named && !n.label.extra then some (unwrap n) else unwrapFirst rest

end

/-- The form of a component with an initial value, if the value makes one. -/
def formOfValue (value : Node) : Option DeclarationForm :=
  let value := unwrap value
  if isFunctionValue value then some .arrowConst
  else if value.kind == .call then do
    let callee ← value.field? .function
    let arguments := (← value.field? .arguments).parts
    let functions := arguments.filter fun a => isFunctionValue (unwrap a)
    let last := unwrap (← arguments.getLast?)
    if functions.length == 1 && isFunctionValue last then
      match callee.kind with
      | .member => some (.wrapped .namespaced)
      | .identifier =>
        some (.wrapped (if last.kind == .arrowFunction then .bare else .bareWithFunction))
      | _ => none
    else none
  else none

/-- A component declaration: the name, its form, and the whole statement. -/
structure Declaration where
  name : String
  form : DeclarationForm
  range : Range
deriving DecidableEq, Repr

/-- The component one declarator of a `const` declares. -/
def declaratorComponent (source : List Char) (range : Range) (d : Node) : Option Declaration := do
  guard (d.kind == .declarator)
  let name ← d.field? .name
  guard (name.kind == .identifier)
  let form ← formOfValue (← d.field? .value)
  pure ⟨sourceText source name, form, range⟩

/-- The components a declaration declares, for a statement with a range. -/
def componentsOf (source : List Char) (range : Range) (d : Node) : List Declaration :=
  match d.kind with
  | .lexicalDeclaration =>
    if d.children.head?.map Node.kind == some (.token "const") then
      d.parts.filterMap (declaratorComponent source range)
    else []
  | .functionDeclaration =>
    match d.field? .name with
    | some name => [⟨sourceText source name, .functionDeclaration, range⟩]
    | none => []
  | _ => []

/-- The components a top-level statement declares. -/
def declarationsOf (source : List Char) (statement : Node) : List Declaration :=
  if statement.kind == .exportStatement then
    match statement.field? .declaration with
    | some d => componentsOf source statement.range d
    | none => []
  else componentsOf source statement.range statement

end Nameplate
