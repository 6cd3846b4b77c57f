import Nameplate.Document.Command
import Nameplate.Workspace.Disk

/-!
# Naming the components of files

A file that is open is planned from the text of its document, any other file from the disk.

* `FilePlan`: what to do about a file;
* `planFile`: the plan of a file;
* `Summary`: the plans of several files in numbers.
-/

namespace Nameplate.Workspace

open Naming (editsFor)
open Text (LineIndex)

/-- What to do about a file. -/
inductive FilePlan where
  | edit (e : DocumentEdit)
  | upToDate
  | failure (error : AnalysisError)
  /-- The file cannot be read. -/
  | skipped
deriving DecidableEq, Repr

/-- The plan for the outcome of an analysis. -/
def planOutcome (label : String) (u : Uri) (version : Option Int) (index : LineIndex) :
    Outcome → FilePlan
  | .failure e => .failure e
  | .components candidates =>
    let edits := editsFor candidates label (Text.lineEnding index.text)
    if edits.isEmpty then .upToDate
    else .edit ⟨u, version, edits.map (positionedIn index)⟩

/-- The plan for the bytes of a file that is not open. -/
def planContent (label : String) (u : Uri) (content : Option (List UInt8)) : FilePlan :=
  match content.bind Text.ofBytes? with
  | none => .skipped
  | some text =>
    planOutcome label u none (.ofText text.toList) (.ofText text.toList)

/-- The plan for the file at an absolute path, and the store that keeps the analysis of its
document. -/
def planFile (disk : Entry) (s : Store) (label : String) (path : List String) : FilePlan × Store :=
  let u := Uri.ofComponents path
  match s.analyze u with
  | (some made, s) =>
    let a := made.analysis
    (planOutcome label u (some a.version) a.index a.outcome, s)
  | (none, s) => (planContent label u (disk.read? path), s)

/-- The plans for several files, one after the other. -/
def planFiles (disk : Entry) (s : Store) (label : String) :
    List (List String) → List FilePlan × Store
  | [] => ([], s)
  | path :: paths =>
    let (plan, s) := planFile disk s label path
    let (plans, s) := planFiles disk s label paths
    (plan :: plans, s)

/-- The document edit of a plan. -/
def FilePlan.edit? : FilePlan → Option DocumentEdit
  | edit e => some e
  | _ => none

/-- The number of edits of a plan. -/
def FilePlan.editCount : FilePlan → Nat
  | edit e => e.edits.length
  | _ => 0

/-- Whether a file could not be parsed. -/
def FilePlan.isFailure : FilePlan → Bool
  | failure _ => true
  | _ => false

/-- The plans of several files in numbers, and all their edits. -/
structure Summary where
  files : Nat
  edits : Nat
  parseFailures : Nat
  documentEdits : WorkspaceEdit
deriving DecidableEq, Repr

/-- The summary of some plans. -/
def Summary.ofPlans (plans : List FilePlan) : Summary where
  files := plans.length
  edits := plans.foldr (fun plan n => plan.editCount + n) 0
  parseFailures := plans.countP FilePlan.isFailure
  documentEdits := plans.filterMap FilePlan.edit?

/-- The summary in words. -/
def Summary.message (s : Summary) : String :=
  toString s.edits ++ " edits in " ++ toString s.documentEdits.length ++ " of " ++
    toString s.files ++ " files (" ++ toString s.parseFailures ++ " files could not be parsed)"

end Nameplate.Workspace
