import Nameplate.Component.Candidate
import Nameplate.Naming.Literal
import Nameplate.Text.Edit
import Nameplate.Text.LineIndex

/-!
# What to do about a component's name

* `displayName`: the name a component should carry;
* `plan`: whether its statement has to be inserted, its literal replaced, or nothing done;
* `editsFor`: the edits for all components of a file.
-/

namespace Nameplate.Naming

open Text (Range LineIndex Span)

/-- The display name of a component: its own name behind a label. -/
def displayName (name label : String) : String := label ++ name

/-- An edit that names a component. -/
structure NameEdit where
  name : String
  range : Range
  newText : String
deriving DecidableEq, Repr

/-- The edit of the text itself. -/
def NameEdit.toEdit (e : NameEdit) : Text.Edit := ⟨e.range, e.newText⟩

/-- The positions and the text of an edit. -/
structure PositionedEdit where
  span : Span
  newText : String
deriving DecidableEq, Repr

/-- An edit by positions; there is none if an end of its range lies inside a character. -/
def NameEdit.positioned (e : NameEdit) (index : LineIndex) : Option PositionedEdit := do
  pure ⟨← index.span e.range, e.newText⟩

/-- What to do about a component. -/
inductive Plan where
  | insert (edit : NameEdit)
  | replace (edit : NameEdit)
  | nothing
deriving DecidableEq, Repr

/-- The edit of a plan. -/
def Plan.edit? : Plan → Option NameEdit
  | insert e => some e
  | replace e => some e
  | nothing => none

/-- The statement that names a component, behind a line ending. -/
def statementText (name identification lineEnding : String) : String :=
  lineEnding ++ name ++ "." ++ displayNameProperty ++ " = \"" ++
    escapeString '"' identification ++ "\";"

/-- An edit touches a sibling if their ranges overlap or it starts inside the sibling. -/
def touches (r : Range) (s : Sibling) : Bool :=
  s.range.overlaps r || (s.range.start < r.start && s.range.contains r.start)

/-- The plan before siblings are looked at. -/
def draft (c : Candidate) (identification lineEnding : String) : Plan :=
  match c.existing with
  | none => .insert
      { name := c.name
        range := .empty c.insertionPoint
        newText := statementText c.name identification lineEnding }
  | some ⟨_, .computed⟩ => .nothing
  | some ⟨_, .literal raw range quote⟩ =>
    let expected := escapeString quote identification
    if raw = expected then .nothing
    else .replace
      { name := c.name
        range
        newText := quote.toString ++ expected ++ quote.toString }

/-- The plan for a component: a statement behind its declaration if it has no name, the right
literal instead of another one, and nothing if the name is right or computed, or if the edit would
touch an assignment to another property. -/
def plan (c : Candidate) (identification lineEnding : String) : Plan :=
  let drafted := draft c identification lineEnding
  match drafted.edit? with
  | some e => if c.siblings.any (touches e.range) then .nothing else drafted
  | none => drafted

/-- The plan for a component under a label. -/
def planFor (label lineEnding : String) (c : Candidate) : Plan :=
  plan c (displayName c.name label) lineEnding

/-- The edits that name all components of a file, in their order. -/
def editsFor (candidates : List Candidate) (label lineEnding : String) : List NameEdit :=
  candidates.filterMap fun c => (planFor label lineEnding c).edit?

theorem Plan.edit?_eq_none {p : Plan} : p.edit? = none ↔ p = .nothing := by
  cases p <;> simp [edit?]

/-- There is no edit exactly if there is nothing to do. -/
theorem editsFor_eq_nil {candidates : List Candidate} {label lineEnding : String} :
    editsFor candidates label lineEnding = [] ↔
      ∀ c ∈ candidates, planFor label lineEnding c = .nothing := by
  simp only [editsFor, List.filterMap_eq_nil_iff, Plan.edit?_eq_none]

end Nameplate.Naming
