import Nameplate.Component.Analysis
import Nameplate.Naming.Plan
import Nameplate.Uri.Basic

/-!
# The analysis of a version of a document

* `AnalysisError`: why a text has no components to speak of;
* `Outcome`: the components of a text, or the error;
* `Analysis`: the outcome for a version of a document, with its lines;
* `Made`: an analysis that was made, which is handed out again as long as it is kept.

The ranges of a tree start and stop between characters of its text, where every offset has a
position. `spanIn` is total all the same: for other ranges it gives the empty span at the start.
-/

namespace Nameplate

open Text (Range LineIndex Span)

/-- Why a text could not be analysed. -/
inductive AnalysisError where
  /-- The grammar could not be loaded. -/
  | grammar (reason : String)
  /-- The text does not fit the grammar. -/
  | parse (description : String) (range : Range)
deriving DecidableEq, Repr

/-- The error in words. -/
def AnalysisError.message : AnalysisError → String
  | grammar reason => "Failed to load TSX grammar: " ++ reason
  | parse description _ => "Parse error: " ++ description

/-- The error of a fault in a tree. -/
def Fault.toError (f : Fault) : AnalysisError := .parse f.describe f.range

/-- What an analysis finds. -/
inductive Outcome where
  | components (candidates : List Candidate)
  | failure (error : AnalysisError)
deriving DecidableEq, Repr

namespace Outcome

/-- What the analysis of a tree finds. -/
def ofTree (tree : Tsx.Node) (text : List Char) : Outcome :=
  match analyzeTree tree text with
  | .ok candidates => components candidates
  | .error fault => failure fault.toError

/-- What the analysis of a text finds. -/
def ofText (text : List Char) : Outcome := ofTree (Tsx.parse text) text

/-- The components; none if there is an error. -/
def candidates : Outcome → List Candidate
  | components cs => cs
  | failure _ => []

/-- The error, if there is one. -/
def error? : Outcome → Option AnalysisError
  | components _ => none
  | failure e => some e

end Outcome

/-- The analysis of a version of a document. -/
structure Analysis where
  uri : Uri
  version : Int
  index : LineIndex
  outcome : Outcome
deriving DecidableEq, Repr

namespace Analysis

/-- The components of the document. -/
def candidates (a : Analysis) : List Candidate := a.outcome.candidates

/-- The first component with a name. -/
def candidate? (a : Analysis) (name : String) : Option Candidate :=
  a.candidates.find? fun c => c.name == name

/-- The line ending of the document. -/
def lineEnding (a : Analysis) : String := Text.lineEnding a.index.text

end Analysis

/-- An analysis that was made, under a number. Two of them are one and the same exactly if they have
the same number, whatever they say. -/
structure Made where
  number : Nat
  analysis : Analysis
deriving DecidableEq, Repr

/-- The positions of a range whose ends stand between characters, as those of a tree do. -/
def spanIn (index : LineIndex) (r : Range) : Span := (index.span r).getD default

/-- An edit by positions, if its range comes from a tree. -/
def positionedIn (index : LineIndex) (e : Naming.NameEdit) : Naming.PositionedEdit :=
  ⟨spanIn index e.range, e.newText⟩

end Nameplate
