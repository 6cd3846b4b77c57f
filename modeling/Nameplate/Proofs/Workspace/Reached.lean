import Mathlib.Data.List.Infix
import Nameplate.Proofs.Workspace.Collected

/-!
# Which files a search reaches

A search adds the files that count, in the order of their paths, behind those found before. A file
is found exactly if it is taken and every directory on the way to it is entered: no file gets lost
in the order of the entries, and none is found through a directory that is passed over.

* `Entry.lookup_append`: a path leads on from what its beginning leads to;
* `collectInto_eq`: the search as it goes adds what is collected;
* `mem_collect`: what is collected below a directory;
* `Found`: a file that a search below a directory has to find;
* `collectInto_found`: the search adds these files, in their order.
-/

namespace Nameplate.Workspace

/-! ## What a path leads to -/

namespace Entry

theorem lookup_append (e : Entry) (a b : List String) :
    e.lookup (a ++ b) = (e.lookup a).bind fun c => c.lookup b := by
  induction a generalizing e with
  | nil => rfl
  | cons name a ih =>
    rw [List.cons_append, lookup, lookup, Option.bind_assoc]
    simp only [ih]

/-- Below a file there is nothing. -/
theorem lookup_file {content content' : List UInt8} {path : List String} :
    (file content).lookup path = some (file content') ↔ path = [] ∧ content = content' := by
  cases path with
  | nil => simp [lookup]
  | cons name path => simp [lookup, child?, entries]

/-- An entry of a directory is found by its name, as no other one has it. -/
theorem child?_eq_some_iff {es : List (String × Entry)} (nodup : (es.map Prod.fst).Nodup)
    {name : String} {e : Entry} : (directory es).child? name = some e ↔ (name, e) ∈ es := by
  constructor
  · intro h
    obtain ⟨c, hc, rfl⟩ := Option.map_eq_some_iff.mp h
    have hname : c.1 = name := by simpa using List.find?_some hc
    exact hname ▸ List.mem_of_find?_eq_some hc
  · intro h
    obtain ⟨c, hc⟩ : ∃ c, es.find? (fun c => c.1 == name) = some c :=
      Option.isSome_iff_exists.mp (List.find?_isSome.mpr ⟨_, h, beq_self_eq_true name⟩)
    have hname : c.1 = name := by simpa using List.find?_some hc
    have hsame : c = (name, e) :=
      List.inj_on_of_nodup_map nodup (List.mem_of_find?_eq_some hc) h hname
    rw [child?, entries, hc, Option.map_some, hsame]

/-- A path below a directory starts with the name of one of its entries. -/
theorem lookup_directory {es : List (String × Entry)} (nodup : (es.map Prod.fst).Nodup)
    {path : List String} {content : List UInt8} :
    (directory es).lookup path = some (file content) ↔
      ∃ c ∈ es, ∃ below, path = c.1 :: below ∧ c.2.lookup below = some (file content) := by
  cases path with
  | nil => simp [lookup]
  | cons name path =>
    rw [lookup, Option.bind_eq_some_iff]
    constructor
    · rintro ⟨e, he, hpath⟩
      exact ⟨(name, e), (child?_eq_some_iff nodup).mp he, path, rfl, hpath⟩
    · rintro ⟨c, hc, below, hpath, hbelow⟩
      obtain ⟨rfl, rfl⟩ := List.cons.inj hpath
      exact ⟨c.2, (child?_eq_some_iff nodup).mpr hc, hbelow⟩

end Entry

/-! ## The search as it goes -/

/-- Results of the entries come in the order of the entries. -/
theorem inOrder_map {α : Type} (g : String × Entry → List α) (entries : List (String × Entry)) :
    inOrder (entries.map fun c => (c.1, g c)) = (byName entries).flatMap g := by
  have hsort := @List.map_mergeSort _ _ (fun a b : String × Entry => decide (a.1 ≤ b.1))
    (fun a b : String × List α => decide (a.1 ≤ b.1)) (fun c => (c.1, g c)) entries
    fun _ _ _ _ => rfl
  rw [inOrder, ← hsort, List.flatMap_map, byName]

theorem mem_collectEach {filter : Option Filter} {path x : List String}
    {entries : List (String × Entry)} : x ∈ inOrder (collectEach filter path entries) ↔
      ∃ c ∈ entries, x ∈ collectEntry filter (path ++ [c.1]) c.2 := by
  simp only [collectEach_eq, inOrder_map, List.mem_flatMap, byName, List.mem_mergeSort]

theorem foldl_add {α β : Type} {add : List β → α → List β} {g : α → List β} {l : List α}
    (h : ∀ found, ∀ a ∈ l, add found a = found ++ g a) (found : List β) :
    l.foldl add found = found ++ l.flatMap g := by
  rw [List.foldl_ext add (fun found a => found ++ g a) found h, List.foldl_append_eq_append,
    List.flatMap_def]

theorem addEntry_eq (filter : Option Filter) (path : List String) (e : Entry)
    (found : List (List String)) :
    addEntry filter path e found = found ++ collectEntry filter path e := by
  fun_induction addEntry filter path e found with
  | case1 path content found htakes => rw [collectEntry, if_pos htakes]
  | case2 path content found htakes => rw [collectEntry, if_neg htakes, List.append_nil]
  | case3 path entries found henters ih =>
    rw [collectEntry, if_pos henters, collectEach_eq, inOrder_map,
      foldl_add fun found c _ => ih found c,
      List.flatMap_subtype (g := fun c => collectEntry filter (path ++ [c.1]) c.2)
        fun _ _ => rfl, List.unattach_attach]
  | case4 path entries found henters => rw [collectEntry, if_neg henters, List.append_nil]

/-- The search as it goes adds what is collected behind what was found before. -/
theorem collectInto_eq (filter : Option Filter) (path : List String) (directory : Entry)
    (found : List (List String)) :
    collectInto filter path directory found = found ++ collect filter path directory := by
  rw [collectInto, collect, collectEach_eq, inOrder_map]
  exact foldl_add (fun found c _ => addEntry_eq filter _ c.2 found) found

/-! ## What is collected -/

/-- The directories on the way from a path to an entry below it are entered, the one at the path
included. -/
def Entered (filter : Option Filter) (path below : List String) : Prop :=
  ∀ between, between <+: below → between ≠ below → enters filter (path ++ between) = true

theorem entered_nil {filter : Option Filter} {path : List String} : Entered filter path [] :=
  fun _ hle hne => absurd (List.prefix_nil.mp hle) hne

theorem entered_cons {filter : Option Filter} {path below : List String} {name : String} :
    Entered filter path (name :: below) ↔
      enters filter path = true ∧ Entered filter (path ++ [name]) below := by
  constructor
  · intro h
    refine ⟨?_, fun between hle hne => ?_⟩
    · simpa using h [] List.nil_prefix (List.cons_ne_nil _ _).symm
    · have hcons := h (name :: between) (List.cons_prefix_cons.mpr ⟨rfl, hle⟩) (by simpa using hne)
      rwa [List.append_cons] at hcons
  · rintro ⟨hpath, h⟩ between hle hne
    rcases List.prefix_cons_iff.mp hle with rfl | ⟨more, rfl, hmore⟩
    · rwa [List.append_nil]
    · rw [List.append_cons]
      exact h more hmore (by simpa using hne)

/-- The files at or below an entry that are collected: those that are taken, if all directories on
the way are entered. -/
theorem mem_collectEntry (filter : Option Filter) {e : Entry} (h : e.Proper)
    (path x : List String) : x ∈ collectEntry filter path e ↔
      ∃ below content, x = path ++ below ∧ e.lookup below = some (.file content) ∧
        takes filter x = true ∧ Entered filter path below := by
  induction h generalizing path with
  | file content =>
    rw [collectEntry, List.mem_ite_nil_right, List.mem_singleton]
    constructor
    · rintro ⟨htakes, rfl⟩
      exact ⟨[], content, (List.append_nil _).symm, rfl, htakes, entered_nil⟩
    · rintro ⟨below, content', rfl, hbelow, htakes, -⟩
      obtain ⟨rfl, -⟩ := Entry.lookup_file.mp hbelow
      rw [List.append_nil] at htakes ⊢
      exact ⟨htakes, rfl⟩
  | directory entries nodup names below ih =>
    rw [collectEntry, List.mem_ite_nil_right, mem_collectEach]
    constructor
    · rintro ⟨henters, c, hc, hx⟩
      obtain ⟨rest, content, rfl, hrest, htakes, hentered⟩ := (ih c hc _).mp hx
      refine ⟨c.1 :: rest, content, (List.append_cons ..).symm, ?_, htakes,
        entered_cons.mpr ⟨henters, hentered⟩⟩
      exact (Entry.lookup_directory nodup).mpr ⟨c, hc, rest, rfl, hrest⟩
    · rintro ⟨way, content, rfl, hway, htakes, hentered⟩
      obtain ⟨c, hc, rest, rfl, hrest⟩ := (Entry.lookup_directory nodup).mp hway
      obtain ⟨henters, hentered⟩ := entered_cons.mp hentered
      refine ⟨henters, c, hc, (ih c hc _).mpr ?_⟩
      exact ⟨rest, content, List.append_cons .., hrest, htakes, hentered⟩

/-- The files below a directory that are collected. The directory itself is not asked for. -/
theorem mem_collect (filter : Option Filter) {directory : Entry} (h : directory.Proper)
    (path x : List String) : x ∈ collect filter path directory ↔
      ∃ name below content, x = path ++ name :: below ∧
        directory.lookup (name :: below) = some (.file content) ∧ takes filter x = true ∧
        Entered filter (path ++ [name]) below := by
  cases h with
  | file content =>
    simp [collect, Entry.entries, collectEach, inOrder, Entry.lookup_file]
  | directory entries nodup names below =>
    rw [collect, Entry.entries, mem_collectEach]
    constructor
    · rintro ⟨c, hc, hx⟩
      obtain ⟨rest, content, rfl, hrest, htakes, hentered⟩ :=
        (mem_collectEntry filter (below c hc) _ _).mp hx
      refine ⟨c.1, rest, content, (List.append_cons ..).symm, ?_, htakes, hentered⟩
      exact (Entry.lookup_directory nodup).mpr ⟨c, hc, rest, rfl, hrest⟩
    · rintro ⟨name, rest, content, rfl, hway, htakes, hentered⟩
      obtain ⟨c, hc, rest, hsame, hrest⟩ := (Entry.lookup_directory nodup).mp hway
      obtain ⟨rfl, rfl⟩ := List.cons.inj hsame
      refine ⟨c, hc, (mem_collectEntry filter (below c hc) _ _).mpr ?_⟩
      exact ⟨rest, content, List.append_cons .., hrest, htakes, hentered⟩

/-! ## What a search has to find -/

/-- A file that a search below a directory has to find: its path is taken, and so are all
directories between the one where the search starts and the file. -/
structure Found (f : Filter) (root : Entry) (start x : List String) : Prop where
  below : ∃ below, below ≠ [] ∧ x = start ++ below
  file : ∃ content, root.lookup x = some (.file content)
  taken : f.takesFile (joined x) = true
  entered : ∀ directory, start <+: directory → directory <+: x → directory ≠ start →
    directory ≠ x → f.entersDirectory (joined directory) = true

theorem found_iff {f : Filter} {root directory : Entry} {start : List String}
    (hproper : directory.Proper) (hstart : root.lookup start = some directory) (x : List String) :
    x ∈ collect (some f) start directory ↔ Found f root start x := by
  have hbelow : ∀ below, root.lookup (start ++ below) = directory.lookup below := fun below => by
    rw [Entry.lookup_append, hstart, Option.bind_some]
  rw [mem_collect (some f) hproper]
  constructor
  · rintro ⟨name, below, content, rfl, hfile, htakes, hentered⟩
    refine ⟨⟨_, List.cons_ne_nil _ _, rfl⟩, ⟨content, (hbelow _).trans hfile⟩, htakes, ?_⟩
    rintro _ ⟨between, rfl⟩ hle hstart hx
    rw [List.prefix_append_right_inj] at hle
    rcases List.prefix_cons_iff.mp hle with rfl | ⟨more, rfl, hmore⟩
    · exact absurd (List.append_nil _) hstart
    · rw [List.append_cons]
      exact hentered more hmore (by simpa using hx)
  · rintro ⟨⟨below, hne, rfl⟩, ⟨content, hfile⟩, htakes, hentered⟩
    obtain ⟨name, below, rfl⟩ := List.exists_cons_of_ne_nil hne
    refine ⟨name, below, content, rfl, (hbelow _).symm.trans hfile, htakes, ?_⟩
    intro between hle hne
    rw [← List.append_cons]
    refine hentered _ (List.prefix_append _ _) ?_ (by simp) (by simpa using hne)
    exact (List.prefix_append_right_inj _).mpr (List.cons_prefix_cons.mpr ⟨rfl, hle⟩)

/-- A search keeps what was found before and adds the files that it has to find, and no others,
each once and in the order of their paths, name by name. -/
theorem collectInto_found (f : Filter) {root directory : Entry} {start : List String}
    (hroot : root.Proper) (hstart : root.lookup start = some directory)
    (found : List (List String)) : ∃ files,
      collectInto (some f) start directory found = found ++ files ∧
      collect (some f) start directory = files ∧ files.Pairwise (· < ·) ∧ files.Nodup ∧
      ∀ x, x ∈ files ↔ Found f root start x := by
  have hproper := (hroot.lookup hstart).1
  exact ⟨_, collectInto_eq _ _ _ _, rfl, sorted_collect _ hproper _, nodup_collect _ hproper _,
    found_iff hproper hstart⟩

/-! ## A search -/

/-- A directory with the name of a file, and one that is passed over. -/
def cardsDirectory : Entry :=
  .directory [("list.tsx", .directory [("Item.tsx", .file []), ("notes.md", .file [])]),
    ("dist", .directory [("Old.tsx", .file [])]), ("cards.tsx", .file []),
    ("cards", .directory [("Card.tsx", .file [])])]

theorem proper_cardsDirectory : (Entry.directory [("app", cardsDirectory)]).Proper := by
  refine .directory _ (by decide) (by decide) (List.forall_mem_singleton.mpr ?_)
  refine .directory _ (by decide) (by decide) (List.forall_mem_cons.mpr ⟨?_, ?_⟩)
  · refine .directory _ (by decide) (by decide) (List.forall_mem_cons.mpr ⟨.file _, ?_⟩)
    exact List.forall_mem_singleton.mpr (.file _)
  refine List.forall_mem_cons.mpr ⟨?_, List.forall_mem_cons.mpr ⟨.file _, ?_⟩⟩
  · exact .directory _ (by decide) (by decide) (List.forall_mem_singleton.mpr (.file _))
  · refine List.forall_mem_singleton.mpr (.directory _ (by decide) (by decide) ?_)
    exact List.forall_mem_singleton.mpr (.file _)

/-- The filter of the pattern `**/dist` for what is not wanted. -/
def distFilter : Filter := ⟨none, [⟨"**/dist", .leading :: "dist".toList.map .literal⟩]⟩

/-- What is below the directory with the name of a file is found, what is below the other one is
not. -/
theorem collectInto_found_cards :
    Filter.ofPatterns [] ["**/dist"] = .ok distFilter ∧
      (Entry.directory [("app", cardsDirectory)]).Proper ∧
      (Entry.directory [("app", cardsDirectory)]).lookup ["app"] = some cardsDirectory ∧
      ∃ files, collectInto (some distFilter) ["app"] cardsDirectory [["Old.tsx"]] =
          [["Old.tsx"]] ++ files ∧
        files.Pairwise (· < ·) ∧ ["app", "list.tsx", "Item.tsx"] ∈ files ∧
        ["app", "dist", "Old.tsx"] ∉ files := by
  obtain ⟨files, hinto, -, hsorted, -, hfound⟩ :=
    @collectInto_found distFilter _ cardsDirectory ["app"] proper_cardsDirectory rfl [["Old.tsx"]]
  refine ⟨rfl, proper_cardsDirectory, rfl, files, hinto, hsorted, (hfound _).mpr ?_, fun hold => ?_⟩
  · have hentered : ∀ d ∈ ["app", "list.tsx", "Item.tsx"].inits, ["app"] <+: d → d ≠ ["app"] →
        d ≠ ["app", "list.tsx", "Item.tsx"] → distFilter.entersDirectory (joined d) = true := by
      decide +kernel
    refine ⟨⟨["list.tsx", "Item.tsx"], by decide, rfl⟩, ⟨[], rfl⟩, by decide +kernel, ?_⟩
    exact fun d hstart hle => hentered d ((List.mem_inits _ _).mpr hle) hstart
  · have hdist : distFilter.entersDirectory (joined ["app", "dist"]) = false := by decide +kernel
    have hentered := ((hfound _).mp hold).entered ["app", "dist"] (by decide) (by decide)
      (by decide) (by decide)
    exact absurd (hentered.symm.trans hdist) (by decide)

end Nameplate.Workspace
