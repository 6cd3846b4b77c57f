import Nameplate.Component.Declaration

/-!
# Assignments to properties of a component

A top-level statement `Name.property = value` with a plain name on both sides of the dot.
-/

namespace Nameplate

open Text (Range)
open Tsx (Node Kind)

/-- A statement `object.property = value`. -/
structure PropertyAssignment where
  object : String
  property : String
  range : Range
  value : NameValue
deriving DecidableEq, Repr

/-- Whether a node is a string, or a template without substitutions. -/
def isStringLiteral (n : Node) : Bool :=
  match n.kind with
  | .string => true
  | .template => n.parts.all fun p => p.kind != .substitution
  | _ => false

/-- The value of a right side: a literal of at least two bytes, or a computed one. -/
def valueOfRight (source : List Char) (right : Node) : NameValue :=
  let right := unwrap right
  if isStringLiteral right then
    match (Text.slice source right.range).getD [] with
    | quote :: rest =>
      if Text.byteLength (quote :: rest) < 2 then .computed
      else .literal (String.ofList rest.dropLast) right.range quote
    | [] => .computed
  else .computed

/-- The assignment a top-level statement makes. -/
def assignmentOf (source : List Char) (statement : Node) : Option PropertyAssignment := do
  guard (statement.kind == .expressionStatement)
  let e ← statement.parts.head?
  guard (e.kind == .assignment)
  let left ← e.field? .left
  guard (left.kind == .member)
  let object ← left.field? .object
  let property ← left.field? .property
  guard (object.kind == .identifier && property.kind == .propertyIdentifier)
  let right ← e.field? .right
  pure
    { object := sourceText source object
      property := sourceText source property
      range := statement.range
      value := valueOfRight source right }

end Nameplate
