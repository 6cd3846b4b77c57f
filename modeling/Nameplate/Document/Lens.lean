import Nameplate.Document.Command

/-!
# Lenses

A lens stands at a component and offers the command that names it, or shows its name. If at least
two components need an edit, a first lens at the start of the document offers to name all of them.
-/

namespace Nameplate

open Json (Value)
open Naming (Plan planFor displayName)
open Text (Span)

/-- A command with a title; one that is only shown has no name and no arguments. -/
structure Action where
  title : String
  command : String
  arguments : Option (List Value)
deriving Repr

/-- An action at a place of a document. -/
structure Lens where
  span : Span
  action : Action
deriving Repr

namespace Action

/-- An action that is only shown. -/
def shown (title : String) : Action := ⟨title, "", none⟩

/-- Whether an action runs a command. -/
def runs (a : Action) : Bool := a.command != ""

/-- The action of a component's lens. -/
def ofCandidate (label : String) (a : Analysis) (c : Candidate) : Action :=
  let name := displayName c.name label
  let arguments := some [(ApplyRequest.mk a.uri c.name a.version).toValue]
  match planFor label a.lineEnding c with
  | .insert _ => ⟨"Add displayName \"" ++ name ++ "\"", applyCommand, arguments⟩
  | .replace _ => ⟨"Update displayName to \"" ++ name ++ "\"", applyCommand, arguments⟩
  | .nothing =>
    match c.existing.map ExistingName.value with
    | some .computed => shown "displayName (computed)"
    | _ => shown ("displayName \"" ++ name ++ "\"")

/-- The action that names all components of which some number needs an edit. -/
def ofAll (a : Analysis) (count : Nat) : Action :=
  ⟨"Apply displayName to " ++ toString count ++ " components", applyAllCommand,
    some [(ApplyAllRequest.mk a.uri a.version).toValue]⟩

end Action

/-- The lens of a component. -/
def Lens.ofCandidate (label : String) (a : Analysis) (c : Candidate) : Lens :=
  ⟨spanIn a.index c.range, .ofCandidate label a c⟩

/-- The lenses of an analysis. -/
def lensesOf (label : String) (a : Analysis) : List Lens :=
  let lenses := a.candidates.map (Lens.ofCandidate label a)
  let count := lenses.countP fun l => l.action.runs
  if 2 ≤ count then ⟨default, .ofAll a count⟩ :: lenses else lenses

/-- The lenses of a document; none at all if it is not open or has no components. -/
def lenses (s : Store) (label : String) (u : Uri) : Option (List Lens) × Store :=
  match s.analyze u with
  | (none, s) => (none, s)
  | (some made, s) =>
    let a := made.analysis
    (if a.candidates.isEmpty then none else some (lensesOf label a), s)

end Nameplate
