import Nameplate.Glob.Match
import Nameplate.Proofs.Workspace.Collected

/-!
# Paths as texts

The text of a path has slashes between its names. The names are found in it again, in its bytes as
well as in its characters.

* `bytesOf_joined`: the bytes of a path;
* `mem_bytesOf`, `head?_bytesOf`: a name, and how it starts, by its bytes;
* `splitOn_joined`: the names are what stands between the slashes;
* `isTsxPath_joined`: the name at the end of a path tells whether it leads to a TSX file.
-/

namespace Nameplate.Workspace

open Glob (slash)
open Text (ascii_of_mem_utf8EncodeChar bytesOf bytesOf_append bytesOf_cons ofBytes?_bytesOf splitOn)
open Uri (slash_not_mem_bytesOf)

/-! ## Bytes -/

theorem bytesOf_joined (path : List String) :
    bytesOf (joined path).toList = [slash].intercalate (path.map fun n => bytesOf n.toList) := by
  rw [joined, String.toList_intercalate]
  induction path with
  | nil => rfl
  | cons name path ih =>
    cases path with
    | nil => simp
    | cons next path =>
      simp only [List.map_cons] at ih ⊢
      rw [List.intercalate_cons_cons, List.intercalate_cons_cons, ← ih, bytesOf_append,
        bytesOf_append]
      rfl

theorem slash_not_mem_names {path : List String} (h : IsPath path) :
    ∀ n ∈ path.map fun n => bytesOf n.toList, slash ∉ n := by
  rw [List.forall_mem_map]
  exact fun n hn => slash_not_mem_bytesOf (h n hn).2

theorem bytesOf_inj {a b : String} (h : bytesOf a.toList = bytesOf b.toList) : a = b :=
  Option.some.inj (by rw [← ofBytes?_bytesOf a, h, ofBytes?_bytesOf])

theorem mem_bytesOf {word : String} {path : List String} :
    bytesOf word.toList ∈ path.map (fun n => bytesOf n.toList) ↔ word ∈ path := by
  constructor
  · intro h
    obtain ⟨n, hn, hsame⟩ := List.mem_map.mp h
    exact bytesOf_inj hsame ▸ hn
  · exact fun h => List.mem_map_of_mem h

theorem head?_bytesOf (text : List Char) :
    (bytesOf text).head? = some 0x2E ↔ text.head? = some '.' := by
  cases text with
  | nil => simp [bytesOf]
  | cons c text =>
    rw [bytesOf_cons, List.head?_cons, Option.some.injEq]
    constructor
    · intro h
      have hfirst : (0x2E : UInt8) ∈ String.utf8EncodeChar c := by
        rw [List.head?_append_of_ne_nil _ (by simp)] at h
        exact List.mem_of_mem_head? h
      have hcode : '.'.toNat = c.toNat := ascii_of_mem_utf8EncodeChar (by decide) hfirst
      exact (Char.toNat_inj.mp hcode).symm
    · rintro rfl
      rfl

/-! ## Names -/

theorem splitOn_of_not_mem {sep : Char} {text : List Char} (h : sep ∉ text) :
    splitOn sep text = [text] := by
  induction text with
  | nil => rfl
  | cons c text ih =>
    rw [List.mem_cons, not_or] at h
    rw [splitOn, if_neg (by simpa using Ne.symm h.1), ih h.2]

theorem splitOn_append {sep : Char} {part : List Char} (h : sep ∉ part) (rest : List Char) :
    splitOn sep (part ++ sep :: rest) = part :: splitOn sep rest := by
  induction part with
  | nil => rw [List.nil_append, splitOn, if_pos (beq_self_eq_true sep)]
  | cons c part ih =>
    rw [List.mem_cons, not_or] at h
    rw [List.cons_append, splitOn, if_neg (by simpa using Ne.symm h.1), ih h.2]

/-- The names of a path are found between its slashes. -/
theorem splitOn_joined {path : List String} (hne : path ≠ []) (h : IsPath path) :
    splitOn '/' (joined path).toList = path.map String.toList := by
  rw [joined, String.toList_intercalate, show "/".toList = ['/'] from rfl]
  induction path with
  | nil => exact absurd rfl hne
  | cons name path ih =>
    obtain ⟨hname, hpath⟩ := isPath_cons.mp h
    cases path with
    | nil => simpa using splitOn_of_not_mem hname.2
    | cons next path =>
      have hrest := ih (List.cons_ne_nil _ _) hpath
      simp only [List.map_cons] at hrest ⊢
      rw [List.intercalate_cons_cons, List.append_assoc, List.singleton_append,
        splitOn_append hname.2, hrest]

/-- Whether the file at a path is a TSX file depends on its name only. A single dot would not count
as a name. -/
theorem isTsxPath_joined {front : List String} {name : String} (h : IsPath (front ++ [name]))
    (hdot : name.toList ≠ ['.']) : isTsxPath (joined (front ++ [name])) = isTsxPath name := by
  obtain ⟨-, hname⟩ := isPath_append.mp h
  have hfull : (name.toList != [] && name.toList != ['.']) = true := by
    simpa [hdot] using (hname name (List.mem_singleton_self _)).1
  have hlast : ∀ front, IsPath (front ++ [name]) →
      (componentsOf (joined (front ++ [name])).toList).getLast? = some name.toList := by
    intro front hpath
    rw [componentsOf, splitOn_joined (by simp) hpath, List.map_append, List.filter_append,
      List.map_singleton, List.filter_singleton, hfull, cond_true, List.getLast?_concat]
  have hsingle : joined ([] ++ [name]) = name := String.intercalate_singleton
  have hfile : fileName? (joined (front ++ [name])).toList = fileName? name.toList := by
    have halone := hlast [] hname
    rw [hsingle] at halone
    rw [fileName?, fileName?, hlast front h, halone]
  rw [isTsxPath, isTsxPath, hfile]

end Nameplate.Workspace
