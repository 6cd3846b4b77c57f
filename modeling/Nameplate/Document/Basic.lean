import Nameplate.Document.Analysis

/-!
# Open documents

A `Document` is the text a client has open, with a version that the client chooses freely. Its tree
and its analysis are kept until the text changes.

* `Document.fresh`: the analysis of the text as it is now;
* `Document.analyze`: the analysis that is kept, or else a new one that is kept from then on;
* `Document.kept?_analyze`, `Document.number_analyze`: what is handed out is kept, and what is new
  has the number that was given for it;
* `Document.replace`: another text and version.
-/

namespace Nameplate

open Text (LineIndex)

/-- Where a document stands. -/
inductive DocumentState where
  /-- It was not analysed yet. -/
  | opened
  /-- The analysis of its text is kept. -/
  | analyzed
  /-- It was analysed, but its text has changed since. -/
  | stale
deriving DecidableEq, Repr

/-- A document a client has open. -/
structure Document where
  uri : Uri
  version : Int
  text : List Char
  /-- Whether it is searched for components. -/
  analyzable : Bool
  /-- The tree that is kept. -/
  tree : Option Tsx.Node
  /-- The analysis that is kept. -/
  analysis : Option Made
  state : DocumentState
deriving Repr

namespace Document

/-- A document that was just opened. -/
def new (uri : Uri) (version : Int) (text : List Char) (analyzable : Bool) : Document :=
  { uri, version, text, analyzable, tree := none, analysis := none, state := .opened }

/-- Another text and version; what is known about the text before is dropped. -/
def replace (d : Document) (version : Int) (text : List Char) : Document :=
  { d with
    version
    text
    tree := none
    analysis := none
    state := if d.state = .analyzed then .stale else d.state }

/-- The analysis of the text as it is now. -/
def fresh (d : Document) : Analysis :=
  { uri := d.uri
    version := d.version
    index := .ofText d.text
    outcome := if d.analyzable then .ofText d.text else .components [] }

/-- The document with the tree of its text. -/
def withTree (d : Document) : Document :=
  match d.tree with
  | some _ => d
  | none => { d with tree := some (Tsx.parse d.text) }

/-- What the analysis of the tree that is kept finds. -/
def outcome (d : Document) : Outcome :=
  match d.tree with
  | some tree => .ofTree tree d.text
  | none => .components []

/-- The analysis that is kept, if it is one of this version. -/
def kept? (d : Document) : Option Made :=
  d.analysis.filter fun a => a.analysis.version == d.version

/-- The analysis of the document, and the document that keeps it. If there is none, one is made
under a number. -/
def analyze (d : Document) (number : Nat) : Made × Document :=
  match d.kept? with
  | some a => (a, d)
  | none =>
    let d := if d.analyzable then d.withTree else d
    let a : Made :=
      { number
        analysis :=
          { uri := d.uri
            version := d.version
            index := .ofText d.text
            outcome := if d.analyzable then d.outcome else .components [] } }
    (a, { d with analysis := some a, state := .analyzed })

/-! ## What is kept -/

theorem analyze_of_kept {d : Document} {a : Made} (h : d.kept? = some a) (number : Nat) :
    d.analyze number = (a, d) := by
  rw [analyze, h]

/-- An analysis that is made has the number that was given for it. -/
theorem number_analyze {d : Document} (h : d.kept? = none) (number : Nat) :
    (d.analyze number).1.number = number := by
  rw [analyze, h]

/-- What is handed out is kept. -/
theorem kept?_analyze (d : Document) (number : Nat) :
    (d.analyze number).2.kept? = some (d.analyze number).1 := by
  cases h : d.kept? with
  | some a => rw [analyze_of_kept h, h]
  | none =>
    rw [analyze, h]
    simp [kept?]

end Document

end Nameplate
