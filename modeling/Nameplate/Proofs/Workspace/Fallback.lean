import Mathlib.Data.List.Sort
import Nameplate.Proofs.Settings.Excluded
import Nameplate.Proofs.Workspace.Reached
import Nameplate.Settings.Basic

/-!
# A search without a filter

If the patterns of a configuration cannot be read, a workspace is searched without a filter: the
directories that are passed over are then known by their names. The patterns of every workspace pass
over the same directories, and besides these they leave out the files whose own names start with a
dot.

* `entered_none`, `entered_default`: the directories that are entered, by the names on the way;
* `found_alike`: what the two searches let through;
* `fallback_iff`: the files that are found without a filter, but not with these patterns.
-/

namespace Nameplate.Workspace

open Settings (Configuration Excluded anyMatches_defaultPatterns defaultPatterns
  entersDirectory_default)

/-! ## Directories and files -/

theorem entersByName_iff {name : String} : entersByName name = true ↔ ¬ Excluded name := by
  simp [entersByName, skippedNames, Excluded, not_or, and_comm]

/-- Without a filter the names on the way to an entry are asked one by one. -/
theorem entered_none {path below : List String} {name : String} :
    Entered none (path ++ [name]) below ↔ ∀ n ∈ (name :: below).dropLast, ¬ Excluded n := by
  induction below generalizing path name with
  | nil => simp [entered_nil]
  | cons next below ih =>
    have henters : enters none (path ++ [name]) = entersByName name := by simp [enters]
    rw [entered_cons, henters, entersByName_iff, ih, List.dropLast_cons_cons,
      List.forall_mem_cons]

/-- A TSX file has an excluded name only if it starts with a dot. -/
theorem excluded_of_tsx {name : String} (h : isTsxPath name = true) :
    Excluded name ↔ name.toList.head? = some '.' := by
  have hwords : ∀ word ∈ ["node_modules", "dist", "build"], isTsxPath word = false := by
    decide +kernel
  refine or_iff_right fun hmem => ?_
  exact absurd (h.symm.trans (hwords name hmem)) (by decide)

/-! ## The two searches -/

/-- The filter of a workspace without a configuration. -/
def defaultFilter : Filter := ⟨none, defaultPatterns⟩

theorem filter_default : ({} : Configuration).filter = .ok defaultFilter := rfl

/-- Whether the name of a file starts with a dot. -/
def isDotFile (path : List String) : Bool :=
  path.getLast?.any fun name => name.toList.head? == some '.'

/-- What the default filter lets through. -/
theorem takes_default {path : List String} (h : IsPath path) :
    takes (some defaultFilter) path = true ↔
      isTsxPath (joined path) = true ∧ ∀ name ∈ path, ¬ Excluded name := by
  have hexcluded := anyMatches_defaultPatterns h
  rw [takes, Filter.takesFile]
  simp only [defaultFilter, Option.all_none, Bool.and_true, Bool.and_eq_true, Bool.not_eq_true']
  rw [← Bool.not_eq_true, hexcluded]
  simp

/-- If the names of a path are not excluded, the default filter enters all directories on it. -/
theorem entered_default {path below : List String} (h : IsPath (path ++ below))
    (hfree : ∀ name ∈ path ++ below, ¬ Excluded name) :
    Entered (some defaultFilter) path below := by
  rintro between ⟨rest, rfl⟩ -
  rw [← List.append_assoc] at h hfree
  refine (entersDirectory_default (isPath_append.mp h).1).mpr fun name hname => ?_
  exact hfree name (List.mem_append_left _ hname)

/-- The default filter lets through what is found without a filter, less the files whose names start
with a dot. -/
theorem found_alike {name : String} {below : List String} (h : IsPath (name :: below)) :
    (takes (some defaultFilter) (name :: below) = true ∧
        Entered (some defaultFilter) ([] ++ [name]) below) ↔
      (takes none (name :: below) = true ∧ Entered none ([] ++ [name]) below) ∧
        isDotFile (name :: below) = false := by
  have hentered : (∀ n ∈ name :: below, ¬ Excluded n) →
      Entered (some defaultFilter) ([] ++ [name]) below := @entered_default [name] below h
  rw [takes_default h, entered_none]
  obtain ⟨front, last, hsplit⟩ : ∃ front last, name :: below = front ++ [last] :=
    ⟨_, _, (List.dropLast_append_getLast (List.cons_ne_nil _ _)).symm⟩
  rw [hsplit] at h hentered ⊢
  have htakes : takes none (front ++ [last]) = isTsxPath last := by simp [takes]
  have hdotted : isDotFile (front ++ [last]) = false ↔ last.toList.head? ≠ some '.' := by
    simp [isDotFile]
  rw [List.dropLast_concat, htakes, hdotted]
  constructor
  · rintro ⟨⟨htsx, hfree⟩, -⟩
    obtain ⟨hfront, hlast⟩ := List.forall_mem_append.mp hfree
    have hdot : last.toList.head? ≠ some '.' := fun hhead =>
      hlast last (List.mem_singleton_self _) (.inr hhead)
    rw [isTsxPath_joined h fun hname => hdot (by rw [hname]; rfl)] at htsx
    exact ⟨⟨htsx, hfront⟩, hdot⟩
  · rintro ⟨⟨htsx, hfront⟩, hdot⟩
    have hfree : ∀ n ∈ front ++ [last], ¬ Excluded n := List.forall_mem_append.mpr
      ⟨hfront, List.forall_mem_singleton.mpr (mt (excluded_of_tsx htsx).mp hdot)⟩
    refine ⟨⟨?_, hfree⟩, hentered hfree⟩
    rwa [isTsxPath_joined h fun hname => hdot (by rw [hname]; rfl)]

theorem mem_collect_default {directory : Entry} (h : directory.Proper) (x : List String) :
    x ∈ collect (some defaultFilter) [] directory ↔
      x ∈ collect none [] directory ∧ isDotFile x = false := by
  rw [mem_collect _ h, mem_collect _ h]
  constructor
  · rintro ⟨name, below, content, rfl, hfile, hfound⟩
    obtain ⟨hnone, hdot⟩ := (found_alike (h.lookup hfile).2).mp hfound
    exact ⟨⟨name, below, content, rfl, hfile, hnone⟩, hdot⟩
  · rintro ⟨⟨name, below, content, rfl, hfile, hnone⟩, hdot⟩
    exact ⟨name, below, content, rfl, hfile, (found_alike (h.lookup hfile).2).mpr ⟨hnone, hdot⟩⟩

theorem collect_default {directory : Entry} (h : directory.Proper) :
    collect (some defaultFilter) [] directory =
      (collect none [] directory).filter fun path => !isDotFile path := by
  refine (sorted_collect _ h []).eq_of_mem_iff ((sorted_collect _ h []).filter _) fun x => ?_
  rw [mem_collect_default h, List.mem_filter, Bool.not_eq_true']

/-- Without patterns that can be read there is no filter. -/
theorem filter_of_unreadable {c : Configuration} {error : PatternError}
    (h : c.filter = .error error) (options : Option Settings.Options) :
    (Settings.resolve c options).filter = none := by
  rw [Settings.resolve, h]
  rfl

/-- A search without a filter, as it is made if the patterns of a configuration cannot be read,
finds all that is found with the filter of a workspace without a configuration, in the same order,
and besides that the files whose names start with a dot. The two searches agree exactly if there is
no such file among those found without a filter. -/
theorem fallback_iff {directory : Entry} (h : directory.Proper) :
    ∃ f, ({} : Configuration).filter = .ok f ∧
      (∀ c error options, Configuration.filter c = .error error →
        (Settings.resolve c options).filter = none) ∧
      collect (some f) [] directory =
        (collect none [] directory).filter (fun path => !isDotFile path) ∧
      (collect none [] directory = collect (some f) [] directory ↔
        ∀ path ∈ collect none [] directory, isDotFile path = false) := by
  refine ⟨_, filter_default, fun c error options hc => filter_of_unreadable hc options,
    collect_default h, ?_⟩
  rw [collect_default h, eq_comm, List.filter_eq_self]
  simp

/-- A workspace with a file whose name starts with a dot, and with a directory whose name does. -/
def dottedWorkspace : Entry :=
  .directory [(".App.tsx", .file (Text.bytesOf "const A = () => 1;".toList)),
    (".cache", .directory [("Stale.tsx", .file [])]), ("Card.tsx", .file [])]

theorem proper_dottedWorkspace : dottedWorkspace.Proper := by
  refine .directory _ (by decide) (by decide) (List.forall_mem_cons.mpr ⟨.file _, ?_⟩)
  refine List.forall_mem_cons.mpr ⟨?_, List.forall_mem_singleton.mpr (.file _)⟩
  exact .directory _ (by decide) (by decide) (List.forall_mem_singleton.mpr (.file _))

theorem collected_dotFile : [".App.tsx"] ∈ collect none [] dottedWorkspace :=
  (mem_collect none proper_dottedWorkspace [] _).mpr
    ⟨".App.tsx", [], _, rfl, rfl, by decide +kernel, entered_nil⟩

/-- With the default filter the file with the dot is left out. -/
theorem fallback_iff_dotted : dottedWorkspace.Proper ∧ ∃ f, ({} : Configuration).filter = .ok f ∧
    collect (some f) [] dottedWorkspace =
      (collect none [] dottedWorkspace).filter (fun path => !isDotFile path) ∧
    ¬ ∀ path ∈ collect none [] dottedWorkspace, isDotFile path = false := by
  obtain ⟨f, hf, -, hless, -⟩ := fallback_iff proper_dottedWorkspace
  refine ⟨proper_dottedWorkspace, f, hf, hless, fun hall => ?_⟩
  exact absurd (hall _ collected_dotFile) (by decide +kernel)

/-- The search without a filter finds a file that the search with the default filter does not. -/
theorem not_alike_dotFile : dottedWorkspace.Proper ∧
    ({} : Configuration).filter = .ok defaultFilter ∧
    [".App.tsx"] ∈ collect none [] dottedWorkspace ∧
    [".App.tsx"] ∉ collect (some defaultFilter) [] dottedWorkspace ∧
    collect none [] dottedWorkspace ≠ collect (some defaultFilter) [] dottedWorkspace := by
  have hmissed : [".App.tsx"] ∉ collect (some defaultFilter) [] dottedWorkspace := fun hmem =>
    absurd ((mem_collect_default proper_dottedWorkspace _).mp hmem).2 (by decide +kernel)
  exact ⟨proper_dottedWorkspace, filter_default, collected_dotFile, hmissed,
    fun heq => hmissed (heq ▸ collected_dotFile)⟩

end Nameplate.Workspace
