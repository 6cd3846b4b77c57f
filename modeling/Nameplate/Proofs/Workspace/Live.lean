import Nameplate.Proofs.Document.Reference
import Nameplate.Proofs.Uri.Denotes
import Nameplate.Workspace.Plan

/-!
# Files that are open

A client may write the URI of a file in several ways, and a document is kept under the URI of its
client. A file is looked up under one URI only, the one that is made from its path.

* `PlannedFrom`: a file is planned from a document, whatever is on the disk;
* `PlannedLive`: it is planned from a document that is open and stands for it;
* `planFile_run`, `planFiles_run`: the plans after a history;
* `plannedLive_iff`: a file is planned from an open document exactly if a document is open under
  the URI of its path, and from the disk otherwise.
-/

namespace Nameplate.Workspace

open Naming (editsFor)
open Text (LineIndex)

/-! ## Disks -/

namespace Entry

theorem child?_put (e : Entry) (name : String) (c : Entry) :
    (e.put name c).child? name = some c := by
  simp [child?, put, entries]

/-- What is written at a path is there. -/
theorem lookup_write (e : Entry) (path : List String) (c : Entry) :
    (e.write path c).lookup path = some c := by
  induction path generalizing e with
  | nil => rfl
  | cons name path ih =>
    rw [write, lookup, child?_put, Option.bind_some]
    exact ih _

theorem read?_write (e : Entry) (path : List String) (content : List UInt8) :
    (e.write path (file content)).read? path = some content := by
  rw [read?, lookup_write]

end Entry

/-! ## Plans -/

/-- An analysis always leads to a plan. -/
theorem planOutcome_ne_skipped (label : String) (u : Uri) (version : Option Int)
    (index : LineIndex) (outcome : Outcome) :
    planOutcome label u version index outcome ≠ .skipped := by
  unfold planOutcome
  split
  · nofun
  · dsimp only
    split <;> nofun

/-- The version of an edit is the one that it was planned for. -/
theorem version_planOutcome {label : String} {u : Uri} {version : Option Int} {index : LineIndex}
    {outcome : Outcome} {e : DocumentEdit}
    (h : planOutcome label u version index outcome = .edit e) : e.version = version := by
  unfold planOutcome at h
  split at h
  · cases h
  · dsimp only at h
    split at h
    · cases h
    · obtain rfl := FilePlan.edit.inj h
      rfl

theorem version_planContent {label : String} {u : Uri} {content : Option (List UInt8)}
    {e : DocumentEdit} (h : planContent label u content = .edit e) : e.version = none := by
  unfold planContent at h
  split at h
  · cases h
  · exact version_planOutcome h

/-- The plan for a file whose document has a page. -/
def planPage (label : String) (u : Uri) (p : Page) : FilePlan :=
  planOutcome label u (some p.version) (.ofText p.text) (p.analysis u).outcome

/-- The plan for a file after a history: from its document, or else from the disk. -/
def planOf (disk : Entry) (r : Reference) (label : String) (path : List String) : FilePlan :=
  match r (Uri.ofComponents path) with
  | some p => planPage label (Uri.ofComponents path) p
  | none => planContent label (Uri.ofComponents path) (disk.read? path)

/-- A file is planned from the text under its URI, and the store keeps the analysis. -/
theorem planFile_run (disk : Entry) (ops : List Operation) (label : String) (path : List String) :
    planFile disk (Store.run {} ops) label path =
      (planOf disk (Reference.run ops) label path,
        Store.run {} (ops ++ [.analyze (Uri.ofComponents path)])) := by
  obtain ⟨number, hanalysis⟩ := Store.analyze_run_eq ops (Uri.ofComponents path)
  unfold planFile planOf
  dsimp only
  rw [hanalysis]
  cases Reference.run ops (Uri.ofComponents path) with
  | none => rfl
  | some p => rfl

/-- Files that are planned one after the other do not disturb each other. -/
theorem planFiles_run (disk : Entry) (ops : List Operation) (label : String)
    (paths : List (List String)) :
    (planFiles disk (Store.run {} ops) label paths).1 =
      paths.map (planOf disk (Reference.run ops) label) := by
  induction paths generalizing ops with
  | nil => rfl
  | cons path paths ih =>
    rw [planFiles, planFile_run]
    dsimp only
    rw [ih, Reference.run_analyze, List.map_cons]

/-! ## Planned from a document -/

section

variable {ops : List Operation} {label : String} {path : List String}

/-- A file is planned from a page: from its text and for its version, whatever is on the disk. -/
structure PlannedFrom (s : Store) (label : String) (path : List String) (p : Page) : Prop where
  plan : ∀ disk, (planFile disk s label path).1 = planPage label (Uri.ofComponents path) p
  version : ∀ disk e, (planFile disk s label path).1 = .edit e → e.version = some p.version

/-- A file is planned from a document that is open and whose URI stands for the file. -/
def PlannedLive (ops : List Operation) (label : String) (path : List String) : Prop :=
  ∃ u p, Reference.run ops u = some p ∧ pathOf? u = some path ∧
    PlannedFrom (Store.run {} ops) label path p

/-- A file is planned from the disk, and for no version. -/
structure PlannedUnseen (s : Store) (label : String) (path : List String) : Prop where
  plan : ∀ disk, (planFile disk s label path).1 =
    planContent label (Uri.ofComponents path) (disk.read? path)
  version : ∀ disk e, (planFile disk s label path).1 = .edit e → e.version = none
  /-- A file that cannot be read is left out, also if it could be planned from a document. -/
  matters : ∃ disk disk', (planFile disk s label path).1 = .skipped ∧
    (planFile disk' s label path).1 ≠ .skipped

theorem plannedFrom_run {p : Page} (h : Reference.run ops (Uri.ofComponents path) = some p) :
    PlannedFrom (Store.run {} ops) label path p := by
  have hplan : ∀ disk, (planFile disk (Store.run {} ops) label path).1 =
      planPage label (Uri.ofComponents path) p := fun disk => by
    rw [planFile_run, planOf, h]
  exact ⟨hplan, fun disk e he => version_planOutcome ((hplan disk).symm.trans he)⟩

theorem plannedUnseen_run (h : Reference.run ops (Uri.ofComponents path) = none) :
    PlannedUnseen (Store.run {} ops) label path := by
  have hplan : ∀ disk, (planFile disk (Store.run {} ops) label path).1 =
      planContent label (Uri.ofComponents path) (disk.read? path) := fun disk => by
    rw [planFile_run, planOf, h]
  refine ⟨hplan, fun disk e he => version_planContent ((hplan disk).symm.trans he), ?_⟩
  -- Nothing can be read from a directory, and an empty file is a text.
  refine ⟨(Entry.directory []).write path (.directory []),
    (Entry.directory []).write path (.file []), ?_, ?_⟩
  · rw [hplan, Entry.read?, Entry.lookup_write]
    rfl
  · have hempty : Text.ofBytes? [] = some "" := by decide +kernel
    rw [hplan, Entry.read?_write, planContent, Option.bind_some, hempty]
    exact planOutcome_ne_skipped _ _ _ (.ofText []) (.ofText [])

/-- A file that is planned from the disk is planned from no document. -/
theorem PlannedUnseen.not_plannedLive (h : PlannedUnseen (Store.run {} ops) label path) :
    ¬ PlannedLive ops label path := by
  rintro ⟨u, p, -, -, hfrom⟩
  obtain ⟨disk, -, hskipped, -⟩ := h.matters
  exact planOutcome_ne_skipped _ _ _ _ _ ((hfrom.plan disk).symm.trans hskipped)

/-- A file is planned from one of the documents that are open for it exactly if one of them has the
URI that is made from the path. If none has, it is planned from the disk, whatever other documents
are open. -/
theorem plannedLive_iff (ops : List Operation) (label : String) (hpath : IsPath path) :
    (PlannedLive ops label path ↔ (Store.run {} ops).isOpen (Uri.ofComponents path) = true) ∧
    ((Store.run {} ops).isOpen (Uri.ofComponents path) = false →
      PlannedUnseen (Store.run {} ops) label path) := by
  have hopen : (Store.run {} ops).isOpen (Uri.ofComponents path) =
      (Reference.run ops (Uri.ofComponents path)).isSome := by
    rw [Store.isOpen, ← Store.page_run, Option.isSome_map]
  rw [hopen]
  cases hpage : Reference.run ops (Uri.ofComponents path) with
  | some p =>
    have hlive : PlannedLive ops label path :=
      ⟨_, p, hpage, pathOf?_ofComponents hpath, plannedFrom_run hpage⟩
    exact ⟨iff_of_true hlive rfl, nofun⟩
  | none =>
    have hunseen : PlannedUnseen (Store.run {} ops) label path := plannedUnseen_run hpage
    exact ⟨iff_of_false hunseen.not_plannedLive nofun, fun _ => hunseen⟩

end

/-- A file with brackets in its name. -/
def bracketPath : List String := ["ws", "[id].tsx"]

/-- A URI of the file in which the brackets are encoded. -/
def bracketUri : Uri := ⟨"file", some "", "/ws/%5Bid%5D.tsx", none, none⟩

def bracketText : List Char := "const A = () => 1;\nA.displayName = \"X_A\";".toList

def bracketHistory (u : Uri) : List Operation := [.opening u 4 bracketText "typescriptreact"]

theorem plannedLive_plain :
    PlannedLive (bracketHistory (Uri.ofComponents bracketPath)) "X_" bracketPath :=
  (plannedLive_iff _ "X_" (by decide +kernel : IsPath bracketPath)).1.mpr (by decide +kernel)

/-- The document stands for the file, but the file is planned from the disk. -/
theorem not_plannedLive_encoded :
    Uri.parse "file:///ws/%5Bid%5D.tsx" = .ok bracketUri ∧ IsPath bracketPath ∧
      pathOf? bracketUri = some bracketPath ∧
      Reference.run (bracketHistory bracketUri) bracketUri = some ⟨4, bracketText, true⟩ ∧
      ¬ PlannedLive (bracketHistory bracketUri) "X_" bracketPath ∧
      PlannedUnseen (Store.run {} (bracketHistory bracketUri)) "X_" bracketPath := by
  have hpage : Reference.run (bracketHistory bracketUri) (Uri.ofComponents bracketPath) = none := by
    decide +kernel
  have hunseen : PlannedUnseen (Store.run {} (bracketHistory bracketUri)) "X_" bracketPath :=
    plannedUnseen_run hpage
  exact ⟨by decide +kernel, by decide +kernel, by decide +kernel, by decide +kernel,
    hunseen.not_plannedLive, hunseen⟩

end Nameplate.Workspace
