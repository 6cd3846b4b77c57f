import Nameplate.Proofs.Server.Session
import Nameplate.Proofs.Workspace.Collected

/-!
# The accounts of a workspace

The components of a whole workspace are named in one go. Its files are planned piece by piece, and
the client is told after each piece how many of them are done.

* `chunksOf_flatten`, `length_chunksOf`: a list in pieces;
* `tallies`: the numbers of files that are done after each piece;
* `planChunks_fst`, `planChunks_reports`: every file is planned as if it were the only one;
* `Edited`: what becomes of each file, `Counted`: the same in numbers, `Tallied`: what is reported;
* `workspace_accounted`: all that a client is sent.
-/

namespace Nameplate

/-! ## Plans -/

namespace Workspace

theorem uri_planOutcome {label : String} {u : Uri} {version : Option Int} {index : Text.LineIndex}
    {outcome : Outcome} {e : DocumentEdit}
    (h : planOutcome label u version index outcome = .edit e) : e.uri = u := by
  unfold planOutcome at h
  split at h <;> [cases h; skip]
  dsimp only at h
  split at h <;> [cases h; skip]
  obtain rfl := FilePlan.edit.inj h
  rfl

/-- The edit of a file is one of the document with its URI. -/
theorem uri_planFile {disk : Entry} {store : Store} {label : String} {path : List String}
    {e : DocumentEdit} (h : (planFile disk store label path).1 = .edit e) :
    e.uri = Uri.ofComponents path := by
  unfold planFile at h
  dsimp only at h
  split at h
  · exact uri_planOutcome h
  · dsimp only at h
    unfold planContent at h
    split at h <;> [cases h; exact uri_planOutcome h]

/-- Every plan is an edit, a failure, up to date or skipped. -/
theorem count_plans (plans : List FilePlan) :
    (plans.filterMap FilePlan.edit?).length + plans.countP FilePlan.isFailure +
      plans.count .upToDate + plans.count .skipped = plans.length := by
  induction plans with
  | nil => rfl
  | cons plan plans ih =>
    rw [List.filterMap_cons, List.countP_cons, List.count_cons, List.count_cons, List.length_cons,
      ← ih]
    cases plan <;> simp [FilePlan.edit?, FilePlan.isFailure] <;> omega

theorem edits_ofPlans (plans : List FilePlan) :
    (Summary.ofPlans plans).edits =
      ((plans.filterMap FilePlan.edit?).flatMap DocumentEdit.edits).length := by
  induction plans with
  | nil => rfl
  | cons plan plans ih =>
    have hcons : (Summary.ofPlans (plan :: plans)).edits =
        plan.editCount + (Summary.ofPlans plans).edits := rfl
    rw [hcons, ih, List.filterMap_cons]
    cases plan <;> simp [FilePlan.edit?, FilePlan.editCount]

/-- The edits of some files belong to those of them that have one, in their order. -/
theorem forall₂_edit? {α : Type} (plan : α → FilePlan) (files : List α) :
    List.Forall₂ (fun file e => plan file = .edit e)
      (files.filter fun file => (plan file).edit?.isSome)
      ((files.map plan).filterMap FilePlan.edit?) := by
  induction files with
  | nil => exact .nil
  | cons file files ih =>
    rw [List.filter_cons, List.map_cons, List.filterMap_cons]
    cases hplan : plan file with
    | edit e => exact .cons hplan ih
    | upToDate => exact ih
    | failure e => exact ih
    | skipped => exact ih

end Workspace

namespace Server

open Workspace

/-! ## Pieces -/

section

variable {α : Type} {n fuel : Nat} {l : List α}

theorem length_drop_le {a : α} (hn : 0 < n) (h : (a :: l).length ≤ fuel + 1) :
    ((a :: l).drop n).length ≤ fuel := by
  rw [List.length_drop, List.length_cons] at *
  omega

theorem chunksOf_flatten (hn : 0 < n) (h : l.length ≤ fuel) :
    (chunksOf n fuel l).flatten = l := by
  fun_induction chunksOf n fuel l with
  | case1 l => exact (List.eq_nil_of_length_eq_zero (Nat.le_zero.mp h)).symm
  | case2 fuel => rfl
  | case3 fuel a l ih => rw [List.flatten_cons, ih (length_drop_le hn h), List.take_append_drop]

/-- The number of pieces of a list is rounded up. -/
theorem length_chunksOf (hn : 0 < n) (h : l.length ≤ fuel) :
    (chunksOf n fuel l).length = (l.length + n - 1) / n := by
  have hzero : (0 + n - 1) / n = 0 := Nat.div_eq_of_lt (by omega)
  fun_induction chunksOf n fuel l with
  | case1 l => rw [Nat.le_zero.mp h, hzero, List.length_nil]
  | case2 fuel => exact hzero.symm
  | case3 fuel a l ih =>
    rw [List.length_cons, ih (length_drop_le hn h), List.length_drop]
    -- What is shorter than a piece is the last one; otherwise a whole piece is taken off.
    rcases Nat.lt_or_ge (a :: l).length n with hlt | hge
    · have hone : ((a :: l).length + n - 1) / n = 1 := by
        rw [List.length_cons] at *
        exact Nat.div_eq_of_lt_le (by omega) (by omega)
      rw [Nat.sub_eq_zero_of_le (Nat.le_of_lt hlt), hzero, hone]
    · have hsplit : (a :: l).length + n - 1 = ((a :: l).length - n + n - 1) + n := by omega
      rw [hsplit, Nat.add_div_right _ hn]

/-- How many are done after each of some pieces, if `done` were done before. -/
def tallies (done : Nat) : List (List α) → List Nat
  | [] => []
  | chunk :: chunks => (done + chunk.length) :: tallies (done + chunk.length) chunks

theorem length_tallies (done : Nat) (chunks : List (List α)) :
    (tallies done chunks).length = chunks.length := by
  induction chunks generalizing done with
  | nil => rfl
  | cons chunk chunks ih => rw [tallies, List.length_cons, ih, List.length_cons]

theorem mem_tallies {done : Nat} {chunks : List (List α)} (h : n ∈ tallies done chunks) :
    done ≤ n ∧ n ≤ done + chunks.flatten.length := by
  induction chunks generalizing done with
  | nil => cases h
  | cons chunk chunks ih =>
    rw [List.flatten_cons, List.length_append]
    rcases List.mem_cons.mp h with rfl | h
    · omega
    · have hrest := ih h
      omega

theorem sorted_tallies (done : Nat) (chunks : List (List α)) :
    (tallies done chunks).Pairwise (· ≤ ·) := by
  induction chunks generalizing done with
  | nil => exact .nil
  | cons chunk chunks ih => exact .cons (fun n hn => (mem_tallies hn).1) (ih _)

/-- In the end all are done. -/
theorem getLast?_tallies {done : Nat} {chunks : List (List α)} (h : chunks ≠ []) :
    (tallies done chunks).getLast? = some (done + chunks.flatten.length) := by
  induction chunks generalizing done with
  | nil => exact absurd rfl h
  | cons chunk chunks ih =>
    rw [tallies, List.getLast?_cons, List.flatten_cons, List.length_append]
    cases chunks with
    | nil => simp [tallies]
    | cons next chunks =>
      rw [ih nofun, Option.getD_some, Nat.add_assoc]

end

/-! ## Planning -/

section

variable {disk : Entry} {label : String} {store : Store} {ops : List Operation}

theorem planFiles_fst (h : store.Follows ops) (paths : List (List String)) :
    (planFiles disk store label paths).1 =
      paths.map (planOf disk (Reference.run ops) label) := by
  obtain ⟨seen, rfl, hseen⟩ := h
  rw [planFiles_run, hseen]

/-- Every file is planned as if it were the only one. -/
theorem planChunks_fst (h : store.Follows ops) (total done : Nat)
    (chunks : List (List (List String))) :
    (planChunks disk label total store done chunks).1 =
      chunks.flatten.map (planOf disk (Reference.run ops) label) := by
  induction chunks generalizing store done with
  | nil => rfl
  | cons chunk chunks ih =>
    rw [planChunks, List.flatten_cons, List.map_append]
    dsimp only
    rw [ih (follows_planFiles h disk label chunk), planFiles_fst h]

/-- After each piece it is reported how many files are done. -/
theorem planChunks_reports (h : store.Follows ops) (total done : Nat)
    (chunks : List (List (List String))) :
    (planChunks disk label total store done chunks).2.1 =
      (tallies done chunks).map fun n => .progress (.report n total) := by
  induction chunks generalizing store done with
  | nil => rfl
  | cons chunk chunks ih =>
    rw [planChunks, tallies, List.map_cons]
    dsimp only
    rw [ih (follows_planFiles h disk label chunk), planFiles_fst h, List.length_map]

end

/-! ## Accounts -/

/-- The plan of a file that is the only one. -/
def planned (disk : Entry) (s : Server) (path : List String) : FilePlan :=
  (planFile disk s.store s.settings.label path).1

/-- The edits of a workspace: one for each file whose plan is an edit, in the order of the files,
and no two for the same document. -/
structure Edited (disk : Entry) (s : Server) (files : List (List String)) (edits : WorkspaceEdit) :
    Prop where
  each : List.Forall₂ (fun path e => planned disk s path = .edit e)
    (files.filter fun path => (planned disk s path).edit?.isSome) edits
  uris : (edits.map DocumentEdit.uri).Nodup

/-- The numbers in a summary are right: all edits are counted, and every file once. -/
structure Counted (plans : List FilePlan) (edits : WorkspaceEdit) (summary : Summary) : Prop where
  files : summary.files = plans.length
  parseFailures : summary.parseFailures = plans.countP FilePlan.isFailure
  total : edits.length + summary.parseFailures + plans.count .upToDate + plans.count .skipped =
    summary.files
  documentEdits : summary.documentEdits = edits
  edits : summary.edits = (edits.flatMap DocumentEdit.edits).length

/-- The numbers that are reported while some number of files is planned, thirty-two at a time: they
never decrease, and end with the number of all files. -/
structure Tallied (files : Nat) (counts : List Nat) : Prop where
  length : counts.length = (files + 31) / 32
  sorted : counts.Pairwise (· ≤ ·)
  le : ∀ n ∈ counts, n ≤ files
  last : 0 < files → counts.getLast? = some files
  percentages_sorted : (counts.map (percentage · files)).Pairwise (· ≤ ·)
  percentages_le : ∀ q ∈ counts.map (percentage · files), q ≤ 100
  percentages_last : 0 < files → (counts.map (percentage · files)).getLast? = some 100

/-- One run over the files of a workspace: the edits, the same in numbers, what is reported on the
way, and all that is sent. The size of the pieces does not matter for the summary. -/
structure Accounted (disk : Entry) (s : Server) (files : List (List String)) (edits : WorkspaceEdit)
    (summary : Summary) (counts : List Nat) (sent : List Outgoing) : Prop where
  edited : Edited disk s files edits
  counted : Counted (files.map (planned disk s)) edits summary
  tallied : Tallied files.length counts
  pieces : ∀ size, 0 < size → Summary.ofPlans (planChunks disk s.settings.label files.length s.store
    0 (chunksOf size files.length files)).1 = summary
  sent : sent =
    [.createProgress, .progress (.started "Applying displayName" "Collecting files...")] ++
    counts.map (fun n => .progress (.report n files.length)) ++
    [.progress (.ended summary.message), .log .info summary.message] ++
    if edits = [] then [] else [.applyEdit edits]

theorem percentage_mono {a b files : Nat} (h : a ≤ b) :
    percentage a files ≤ percentage b files := by
  unfold percentage
  split <;> [exact Nat.le_refl 100; skip]
  exact Nat.div_le_div_right (Nat.mul_le_mul_right 100 h)

theorem percentage_self {files : Nat} (h : 0 < files) : percentage files files = 100 := by
  rw [percentage, if_neg (Nat.ne_of_gt h), Nat.mul_div_cancel_left _ h]

theorem percentage_le {n files : Nat} (h : n ≤ files) : percentage n files ≤ 100 := by
  rcases Nat.eq_zero_or_pos files with rfl | hpos
  · exact Nat.le_refl 100
  · exact percentage_self hpos ▸ percentage_mono h

/-- What is reported for the pieces of a list. -/
theorem tallied_tallies {α : Type} (files : List α) :
    Tallied files.length (tallies 0 (chunksOf chunkSize files.length files)) := by
  have hsize : 0 < chunkSize := by decide
  have hflatten := chunksOf_flatten hsize (Nat.le_refl files.length)
  have hle : ∀ n ∈ tallies 0 (chunksOf chunkSize files.length files), n ≤ files.length := by
    intro n hn
    have hbound := (mem_tallies hn).2
    rwa [hflatten, Nat.zero_add] at hbound
  have hlast : 0 < files.length →
      (tallies 0 (chunksOf chunkSize files.length files)).getLast? = some files.length := by
    intro hpos
    have hne : chunksOf chunkSize files.length files ≠ [] := by
      intro hnil
      rw [hnil, List.flatten_nil] at hflatten
      rw [← hflatten] at hpos
      cases hpos
    rw [getLast?_tallies hne, hflatten, Nat.zero_add]
  constructor
  case length =>
    rw [length_tallies, length_chunksOf hsize (Nat.le_refl _)]
    rfl
  case sorted => exact sorted_tallies 0 _
  case le => exact hle
  case last => exact hlast
  case percentages_sorted =>
    exact List.pairwise_map.mpr ((sorted_tallies 0 _).imp percentage_mono)
  case percentages_le =>
    rw [List.forall_mem_map]
    exact fun n hn => percentage_le (hle n hn)
  case percentages_last =>
    intro hpos
    rw [List.getLast?_map, hlast hpos, Option.map_some, percentage_self hpos]

/-! ## The command -/

section

variable {disk : Entry} {s : Server} {root : List String}

theorem isPath_workspaceFiles (hdisk : disk.Proper) (s : Server) (root : List String) :
    ∀ path ∈ workspaceFiles disk s root, IsPath path := by
  unfold workspaceFiles
  split <;> [skip; nofun]
  rename_i directory hdirectory
  obtain ⟨hproper, hroot⟩ := hdisk.lookup hdirectory
  rw [List.forall_mem_map]
  intro path hpath
  obtain ⟨rest, rfl, hrest⟩ := below_collect s.settings.filter hproper [] path hpath
  exact isPath_append.mpr ⟨hroot, hrest⟩

/-- No file is collected twice. -/
theorem nodup_workspaceFiles (hdisk : disk.Proper) (s : Server) (root : List String) :
    (workspaceFiles disk s root).Nodup := by
  unfold workspaceFiles
  split <;> [skip; exact List.nodup_nil]
  rename_i directory hdirectory
  have hnodup := nodup_collect s.settings.filter (hdisk.lookup hdirectory).1 []
  exact hnodup.map fun a b hab => List.append_cancel_left hab

theorem edited_planned (hdisk : disk.Proper) (s : Server) (root : List String) :
    Edited disk s (workspaceFiles disk s root)
      (((workspaceFiles disk s root).map (planned disk s)).filterMap FilePlan.edit?) := by
  have heach := forall₂_edit? (planned disk s) (workspaceFiles disk s root)
  refine ⟨heach, ?_⟩
  have huris : ∀ {paths : List (List String)} {edits : WorkspaceEdit},
      List.Forall₂ (fun path e => planned disk s path = .edit e) paths edits →
        edits.map DocumentEdit.uri = paths.map Uri.ofComponents := by
    intro paths edits h
    induction h with
    | nil => rfl
    | cons hplan _ ih => rw [List.map_cons, List.map_cons, uri_planFile hplan, ih]
  -- The URIs of the edits are those of some of the files, and no two files have the same one.
  rw [huris heach]
  refine List.Nodup.sublist ((List.filter_sublist ..).map _) ?_
  exact nodup_uris (isPath_workspaceFiles hdisk s root) (nodup_workspaceFiles hdisk s root)

theorem counted_ofPlans (plans : List FilePlan) :
    Counted plans (plans.filterMap FilePlan.edit?) (Summary.ofPlans plans) where
  files := rfl
  parseFailures := rfl
  total := count_plans plans
  documentEdits := rfl
  edits := edits_ofPlans plans

/-- The edits that were found are sent last, if there are any. -/
theorem sent_of_compute {p : CommandParams} {c : Computed} {edits : WorkspaceEdit}
    (hc : compute disk s p = some c)
    (h : c.edit = .ok (if edits.isEmpty then none else some edits)) (reply : Reply) :
    (s.executeCommand disk reply p).sent =
      c.sent ++ if edits = [] then [] else [.applyEdit edits] := by
  rw [executeCommand, hc]
  dsimp only
  rw [h]
  cases edits with
  | nil => exact (List.append_nil _).symm
  | cons e edits => rfl

/-- Files are planned from the store before the first of them, in pieces of any size. -/
theorem planChunks_planned {ops : List Operation} (hstore : s.store = Store.run {} ops)
    (files : List (List String)) {size : Nat} (hsize : 0 < size) :
    (planChunks disk s.settings.label files.length s.store 0
      (chunksOf size files.length files)).1 = files.map (planned disk s) := by
  have hplanned : planOf disk (Reference.run ops) s.settings.label = planned disk s := by
    funext path
    rw [planned, hstore, planFile_run]
  have hfollows : s.store.Follows ops := hstore ▸ Store.follows_run ops
  rw [planChunks_fst hfollows, chunksOf_flatten hsize (Nat.le_refl _), hplanned]

/-- One run of the command that names all components of a workspace. There is one edit for each of
the files whose plan is an edit, in their order, and the numbers in the summary are right. The
client is sent a request to show progress, the start of the work, a report after each piece, the end
of the work and the summary, and after all that the edits, if there are any. -/
theorem workspace_accounted (disk : Entry) (reply : Reply) (s : Server) (p : CommandParams)
    (ops : List Operation) (root : List String) (hdisk : disk.Proper)
    (hstore : s.store = Store.run {} ops) (hroot : rootPath s.root = .ok root)
    (hp : p.command = applyWorkspaceCommand) :
    ∃ edits summary counts, Accounted disk s (workspaceFiles disk s root) edits summary counts
      (s.executeCommand disk reply p).sent := by
  have hplans := @planChunks_planned disk s ops hstore (workspaceFiles disk s root)
  have hreports := @planChunks_reports disk s.settings.label s.store ops
    (hstore ▸ Store.follows_run ops)
  have hcompute : compute disk s p = some (applyWorkspace disk s) := by
    rw [compute, if_neg (by rw [hp]; decide), if_neg (by rw [hp]; decide), if_pos hp]
  have hedit : (applyWorkspace disk s).edit =
      .ok (if (Summary.ofPlans ((workspaceFiles disk s root).map
          (planned disk s))).documentEdits.isEmpty then none
        else some (Summary.ofPlans ((workspaceFiles disk s root).map
          (planned disk s))).documentEdits) := by
    simp only [applyWorkspace, hroot, hplans (by decide : 0 < chunkSize)]
  refine ⟨_, _, _, edited_planned hdisk s root, counted_ofPlans _, tallied_tallies _,
    fun size hsize => congrArg Summary.ofPlans (hplans hsize), ?_⟩
  rw [sent_of_compute hcompute hedit]
  simp only [applyWorkspace, hroot, hplans (by decide : 0 < chunkSize), hreports]
  rfl

end

/-! ## A workspace -/

/-- A workspace with a file of its own and one below a directory. -/
def sampleDisk : Entry :=
  .directory [("ws", .directory [("Card.tsx", .file (Text.bytesOf "const A = () => 1;".toList)),
    ("parts", .directory [("Button.tsx", .file [])])])]

theorem proper_sampleDisk : sampleDisk.Proper := by
  refine .directory _ (by decide) (by decide) (List.forall_mem_singleton.mpr ?_)
  refine .directory _ (by decide) (by decide) (List.forall_mem_cons.mpr ⟨.file _, ?_⟩)
  refine List.forall_mem_singleton.mpr (.directory _ (by decide) (by decide) ?_)
  exact List.forall_mem_singleton.mpr (.file _)

/-- A server of the workspace, in which one of the files is open. -/
def sampleServer : Server :=
  { phase := .initialized
    root := some ⟨"file", some "", "/ws", none, none⟩
    store := Store.run {}
      [.opening ⟨"file", some "", "/ws/Card.tsx", none, none⟩ 1 "const B = () => 2;".toList
        "typescriptreact"] }

theorem workspaceFiles_sample : workspaceFiles sampleDisk sampleServer ["ws"] =
    [["ws", "Card.tsx"], ["ws", "parts", "Button.tsx"]] := by
  have hcard : isTsxPath "Card.tsx" = true := by decide +kernel
  have hbutton : isTsxPath "Button.tsx" = true := by decide +kernel
  have hparts : entersByName "parts" = true := by decide +kernel
  have hlookup : sampleDisk.lookup ["ws"] = some (.directory
      [("Card.tsx", .file (Text.bytesOf "const A = () => 1;".toList)),
        ("parts", .directory [("Button.tsx", .file [])])]) := rfl
  have hsort : [("Card.tsx", [["Card.tsx"]]), ("parts", [["parts", "Button.tsx"]])].mergeSort
      (fun a b => a.1 ≤ b.1) =
        [("Card.tsx", [["Card.tsx"]]), ("parts", [["parts", "Button.tsx"]])] :=
    List.mergeSort_of_pairwise (by decide +kernel)
  have hfilter : sampleServer.settings.filter = none := rfl
  simp [workspaceFiles, hlookup, hfilter, collect, Entry.entries, inOrder, collectEach,
    collectEntry, takes, enters, hcard, hbutton, hparts, hsort]

/-- Two files, one of which is open, are planned in one piece. -/
theorem workspace_accounted_sample :
    rootPath sampleServer.root = .ok ["ws"] ∧ sampleDisk.Proper ∧
      ∃ edits summary counts, Accounted sampleDisk sampleServer
        [["ws", "Card.tsx"], ["ws", "parts", "Button.tsx"]] edits summary counts
        (sampleServer.executeCommand sampleDisk (.result .null)
          ⟨applyWorkspaceCommand, []⟩).sent := by
  have hroot : rootPath sampleServer.root = .ok ["ws"] := by decide +kernel
  have haccounted := workspace_accounted sampleDisk (.result .null) sampleServer
    ⟨applyWorkspaceCommand, []⟩ _ ["ws"] proper_sampleDisk rfl hroot rfl
  rw [workspaceFiles_sample] at haccounted
  exact ⟨hroot, proper_sampleDisk, haccounted⟩

end Server

end Nameplate
