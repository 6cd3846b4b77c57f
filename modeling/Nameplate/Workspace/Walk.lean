import Nameplate.Workspace.Disk
import Nameplate.Workspace.Filter

/-!
# Searching a workspace

`collect` gives the paths of the files that count below a directory. The entries of a directory come
in the order of their names, and what is below an entry in its place. `collectInto` is the search as
it goes: it puts these paths behind those that were found before.
-/

namespace Nameplate.Workspace

/-- A path with slashes between its names. -/
def joined (path : List String) : String := "/".intercalate path

/-- The names of directories that are not searched if there is no filter, besides those that start
with a dot. -/
def skippedNames : List String := ["node_modules", "dist", "build"]

/-- Whether a directory is searched if there is no filter. -/
def entersByName (name : String) : Bool :=
  !(name.toList.head? == some '.' || skippedNames.contains name)

/-- Whether a directory is searched, by its path from the root. -/
def enters (filter : Option Filter) (path : List String) : Bool :=
  match filter with
  | some f => f.entersDirectory (joined path)
  | none => path.getLast?.any entersByName

/-- Whether a file counts, by its path from the root. -/
def takes (filter : Option Filter) (path : List String) : Bool :=
  match filter with
  | some f => f.takesFile (joined path)
  | none => path.getLast?.any isTsxPath

/-- The lists of named results in the order of the names, one behind the other. -/
def inOrder {α : Type} (found : List (String × List α)) : List α :=
  (found.mergeSort fun a b => a.1 ≤ b.1).flatMap Prod.snd

mutual

/-- The files that count at or below an entry at a path. -/
def collectEntry (filter : Option Filter) (path : List String) : Entry → List (List String)
  | .file _ => if takes filter path then [path] else []
  | .directory entries =>
    if enters filter path then inOrder (collectEach filter path entries) else []

/-- The files that count at or below each of some entries of a directory. -/
def collectEach (filter : Option Filter) (path : List String) :
    List (String × Entry) → List (String × List (List String))
  | [] => []
  | (name, e) :: rest =>
    (name, collectEntry filter (path ++ [name]) e) :: collectEach filter path rest

end

/-- The files that count below a directory at a path; the directory itself is always searched. -/
def collect (filter : Option Filter) (path : List String) (directory : Entry) :
    List (List String) :=
  inOrder (collectEach filter path directory.entries)

/-! ## Step by step -/

/-- The entries of a directory in the order of their names. -/
def byName (entries : List (String × Entry)) : List (String × Entry) :=
  entries.mergeSort fun a b => a.1 ≤ b.1

theorem sizeOf_lt_of_mem_byName {c : String × Entry} {entries : List (String × Entry)}
    (h : c ∈ byName entries) : sizeOf c.2 < sizeOf (Entry.directory entries) := by
  have hmem := List.sizeOf_lt_of_mem (List.mem_mergeSort.mp h)
  obtain ⟨name, e⟩ := c
  simp only [Prod.mk.sizeOf_spec, Entry.directory.sizeOf_spec] at hmem ⊢
  omega

/-- The paths found so far, and behind them those of the files that count at or below an entry. -/
def addEntry (filter : Option Filter) (path : List String) :
    Entry → List (List String) → List (List String)
  | .file _, found => if takes filter path then found ++ [path] else found
  | .directory entries, found =>
    if enters filter path then
      (byName entries).attach.foldl
        (fun found c => addEntry filter (path ++ [c.val.1]) c.val.2 found) found
    else found
termination_by e => sizeOf e
decreasing_by exact sizeOf_lt_of_mem_byName c.property

/-- The paths found so far, and behind them those of the files that count below a directory. -/
def collectInto (filter : Option Filter) (path : List String) (directory : Entry)
    (found : List (List String)) : List (List String) :=
  (byName directory.entries).foldl (fun found c => addEntry filter (path ++ [c.1]) c.2 found) found

end Nameplate.Workspace
