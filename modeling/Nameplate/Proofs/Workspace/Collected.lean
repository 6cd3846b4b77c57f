import Mathlib.Data.List.Nodup
import Nameplate.Proofs.Uri.Denotes
import Nameplate.Workspace.Walk

/-!
# The files of a workspace

In a directory no two entries have the same name. The files below it are collected in the order of
their paths, name by name, so that none is collected twice, and no two of them have the same URI.

* `Entry.Proper`: a file system as there can be one;
* `Proper.lookup`: a path that leads somewhere has names only;
* `below_collectEntry`: what is collected at a path starts with the path;
* `sorted_collect`, `nodup_collect`: paths are collected in their order, and none twice;
* `nodup_uris`: different paths have different URIs.
-/

namespace Nameplate.Workspace

/-! ## File systems -/

/-- A file system in which a directory has no two entries with the same name, and no name is empty
or has a slash in it. -/
inductive Entry.Proper : Entry → Prop where
  | file (content : List UInt8) : Proper (file content)
  | directory (entries : List (String × Entry)) (nodup : (entries.map Prod.fst).Nodup)
      (names : IsPath (entries.map Prod.fst)) (below : ∀ c ∈ entries, Proper c.2) :
      Proper (directory entries)

theorem isPath_cons {name : String} {path : List String} :
    IsPath (name :: path) ↔ (name ≠ "" ∧ '/' ∉ name.toList) ∧ IsPath path := List.forall_mem_cons

theorem isPath_append {a b : List String} : IsPath (a ++ b) ↔ IsPath a ∧ IsPath b :=
  List.forall_mem_append

/-- What a path leads to is a file system too, and the path consists of names. -/
theorem Entry.Proper.lookup {e c : Entry} (h : e.Proper) {path : List String}
    (hc : e.lookup path = some c) : c.Proper ∧ IsPath path := by
  induction path generalizing e with
  | nil =>
    obtain rfl := Option.some.inj hc
    exact ⟨h, nofun⟩
  | cons name path ih =>
    obtain ⟨child, hchild, hbelow⟩ := Option.bind_eq_some_iff.mp hc
    obtain ⟨x, hfind, rfl⟩ := Option.map_eq_some_iff.mp hchild
    have hname : x.1 = name := by simpa using List.find?_some hfind
    have hmem := List.mem_of_find?_eq_some hfind
    cases h with
    | file content => cases hmem
    | directory entries nodup names below =>
      obtain ⟨hproper, hpath⟩ := ih (below x hmem) hbelow
      exact ⟨hproper, isPath_cons.mpr ⟨hname ▸ names x.1 (List.mem_map_of_mem hmem), hpath⟩⟩

/-! ## Collecting -/

theorem collectEach_eq (filter : Option Filter) (path : List String)
    (entries : List (String × Entry)) : collectEach filter path entries =
      entries.map fun c => (c.1, collectEntry filter (path ++ [c.1]) c.2) := by
  induction entries with
  | nil => rfl
  | cons c entries ih => rw [collectEach, ih, List.map_cons]

theorem mem_inOrder {α : Type} {found : List (String × List α)} {a : α} :
    a ∈ inOrder found ↔ ∃ f ∈ found, a ∈ f.2 := by
  simp [inOrder, List.mem_flatMap]

/-- A path that goes on from another one by names. -/
def Below (path x : List String) : Prop := ∃ rest, x = path ++ rest ∧ IsPath rest

theorem Below.of_append {path x : List String} {name : String}
    (hname : name ≠ "" ∧ '/' ∉ name.toList) (h : Below (path ++ [name]) x) : Below path x := by
  obtain ⟨rest, rfl, hrest⟩ := h
  exact ⟨name :: rest, by simp, isPath_cons.mpr ⟨hname, hrest⟩⟩

theorem below_collectEach {filter : Option Filter} {entries : List (String × Entry)}
    {path : List String} (names : IsPath (entries.map Prod.fst))
    (h : ∀ c ∈ entries, ∀ x ∈ collectEntry filter (path ++ [c.1]) c.2, Below (path ++ [c.1]) x) :
    ∀ x ∈ inOrder (collectEach filter path entries), Below path x := by
  intro x hx
  rw [collectEach_eq] at hx
  obtain ⟨f, hf, hmem⟩ := mem_inOrder.mp hx
  obtain ⟨c, hc, rfl⟩ := List.mem_map.mp hf
  exact (h c hc x hmem).of_append (names c.1 (List.mem_map_of_mem hc))

/-- What is collected at a path starts with the path. -/
theorem below_collectEntry (filter : Option Filter) {e : Entry} (h : e.Proper)
    (path : List String) : ∀ x ∈ collectEntry filter path e, Below path x := by
  induction h generalizing path with
  | file content =>
    intro x hx
    rw [collectEntry] at hx
    split at hx <;> [skip; cases hx]
    exact ⟨[], by simpa using hx, nofun⟩
  | directory entries nodup names below ih =>
    intro x hx
    rw [collectEntry] at hx
    split at hx <;> [skip; cases hx]
    exact below_collectEach names (fun c hc => ih c hc _) x hx

/-- Paths that go on by different names are in the order of these. -/
theorem Below.lt {path x y : List String} {a b : String} (hab : a < b)
    (hx : Below (path ++ [a]) x) (hy : Below (path ++ [b]) y) : x < y := by
  obtain ⟨rest, rfl, -⟩ := hx
  obtain ⟨rest', rfl, -⟩ := hy
  rw [List.append_assoc, List.append_assoc]
  exact List.append_left_lt (List.Lex.rel hab)

/-- Results in the order of their names, each in order by itself, are in order. -/
theorem sorted_inOrder {path : List String} {found : List (String × List (List String))}
    (hnodup : (found.map Prod.fst).Nodup)
    (hbelow : ∀ f ∈ found, ∀ x ∈ f.2, Below (path ++ [f.1]) x)
    (hsorted : ∀ f ∈ found, f.2.Pairwise (· < ·)) : (inOrder found).Pairwise (· < ·) := by
  have hperm := List.mergeSort_perm found fun a b => a.1 ≤ b.1
  have hle : (found.mergeSort fun a b => a.1 ≤ b.1).Pairwise fun a b =>
      decide (a.1 ≤ b.1) = true := by
    refine List.pairwise_mergeSort (fun a b c hab hbc => ?_) (fun a b => ?_) found
    · exact decide_eq_true (String.le_trans (of_decide_eq_true hab) (of_decide_eq_true hbc))
    · simpa using String.le_total a.1 b.1
  -- Sorting leaves open whether names are equal, but no name is there twice.
  have hne : (found.mergeSort fun a b => a.1 ≤ b.1).Pairwise fun a b => a.1 ≠ b.1 :=
    List.pairwise_map.mp ((hperm.map Prod.fst).nodup_iff.mpr hnodup)
  refine List.pairwise_flatMap.mpr ⟨fun f hf => hsorted f (hperm.mem_iff.mp hf), ?_⟩
  refine (hle.and hne).imp_of_mem fun {a b} ha hb hab x hx y hy => ?_
  have hlt : a.1 < b.1 :=
    String.not_le.mp fun hba => hab.2 (String.le_antisymm (of_decide_eq_true hab.1) hba)
  exact Below.lt hlt (hbelow a (hperm.mem_iff.mp ha) x hx) (hbelow b (hperm.mem_iff.mp hb) y hy)

/-- The files at or below the entries of a directory are in order. -/
theorem sorted_collectEach {filter : Option Filter} {entries : List (String × Entry)}
    (nodup : (entries.map Prod.fst).Nodup) (below : ∀ c ∈ entries, c.2.Proper)
    (path : List String)
    (hsorted : ∀ c ∈ entries, (collectEntry filter (path ++ [c.1]) c.2).Pairwise (· < ·)) :
    (inOrder (collectEach filter path entries)).Pairwise (· < ·) := by
  rw [collectEach_eq]
  refine @sorted_inOrder path _ ?_ ?_ ?_
  · rwa [List.map_map]
  · rw [List.forall_mem_map]
    exact fun c hc => below_collectEntry filter (below c hc) _
  · rw [List.forall_mem_map]
    exact hsorted

theorem sorted_collectEntry (filter : Option Filter) {e : Entry} (h : e.Proper)
    (path : List String) : (collectEntry filter path e).Pairwise (· < ·) := by
  induction h generalizing path with
  | file content =>
    rw [collectEntry]
    split <;> simp
  | directory entries nodup names below ih =>
    rw [collectEntry]
    split <;> [skip; exact .nil]
    exact sorted_collectEach nodup below path fun c hc => ih c hc _

/-- Paths are collected in their order. -/
theorem sorted_collect (filter : Option Filter) {directory : Entry} (h : directory.Proper)
    (path : List String) : (collect filter path directory).Pairwise (· < ·) := by
  rw [collect]
  cases h with
  | file content => simp [Entry.entries, collectEach, inOrder]
  | directory entries nodup names below =>
    exact sorted_collectEach nodup below path fun c hc => sorted_collectEntry filter (below c hc) _

/-- No path is collected twice. -/
theorem nodup_collect (filter : Option Filter) {directory : Entry} (h : directory.Proper)
    (path : List String) : (collect filter path directory).Nodup :=
  (sorted_collect filter h path).nodup

/-- What is collected below a directory goes on from its path. -/
theorem below_collect (filter : Option Filter) {directory : Entry} (h : directory.Proper)
    (path : List String) : ∀ x ∈ collect filter path directory, Below path x := by
  rw [collect]
  cases h with
  | file content => simp [Entry.entries, collectEach, inOrder]
  | directory entries nodup names below =>
    exact below_collectEach names fun c hc => below_collectEntry filter (below c hc) _

/-! ## URIs -/

/-- Different paths have different URIs. -/
theorem nodup_uris {paths : List (List String)} (hpaths : ∀ path ∈ paths, IsPath path)
    (h : paths.Nodup) : (paths.map Uri.ofComponents).Nodup := by
  refine h.map_on fun a ha b hb hab => ?_
  have hsame : some a = some b := by
    rw [← pathOf?_ofComponents (hpaths a ha), hab, pathOf?_ofComponents (hpaths b hb)]
  exact Option.some.inj hsame

end Nameplate.Workspace
