import Nameplate.Proofs.Glob.Match
import Nameplate.Proofs.Workspace.Joined
import Nameplate.Settings.Configuration

/-!
# Paths that never count

The patterns of every workspace say which names no path to a file may have: those of packages, of
what was built, and all that start with a dot. A configuration can exclude more than that, and
nothing less.

* `Excluded`: the names;
* `matches_word`, `matches_dot`: what the two patterns for a word match together, and those for a
  dot;
* `anyMatches_defaultPatterns`: the patterns of every workspace match the paths with such a name;
* `filter_of_valid`: the filter of a configuration whose patterns can be read;
* `excluded_exactly`: no such path counts, and without other patterns every other path is searched.
-/

namespace Nameplate.Settings

open Glob
open Text (bytesOf)
open Uri (slash_not_mem_bytesOf)
open Workspace (Filter IsPath anyMatches bytesOf_inj bytesOf_joined head?_bytesOf isPath_append
  joined mem_bytesOf patternsOf slash_not_mem_names)

/-- The names that no path of a file that counts has. -/
def Excluded (name : String) : Prop :=
  name ∈ ["node_modules", "dist", "build"] ∨ name.toList.head? = some '.'

/-! ## The patterns of every workspace -/

/-- The patterns for a name: that of the paths that end with it, and of those that go on. -/
def wordPatterns (word : String) : List Pattern :=
  [⟨"**/" ++ word, .leading :: (word.toList.map .literal ++ [])⟩,
   ⟨"**/" ++ word ++ "/**", .leading :: (word.toList.map .literal ++ [.trailing])⟩]

/-- The patterns for names that start with a dot. -/
def dotPatterns : List Pattern :=
  [⟨"**/.*", .leading :: (['.'].map .literal ++ [.many])⟩,
   ⟨"**/.*/**", .leading :: (['.'].map .literal ++ [.many, .trailing])⟩]

def defaultPatterns : List Pattern :=
  ["node_modules", "dist", "build"].flatMap wordPatterns ++ dotPatterns

theorem patternsOf_defaultExcludes : patternsOf defaultExcludes = .ok defaultPatterns := rfl

/-- The two patterns for a name match the paths that have the name. -/
theorem matches_word {word : String} (hword : word ≠ "" ∧ word ≠ ".." ∧ '/' ∉ word.toList)
    {path : List String} (hpath : IsPath path) :
    anyMatches (wordPatterns word) (joined path) = true ↔ word ∈ path := by
  obtain ⟨hne, hdots, hslash⟩ := hword
  have hbytes : bytesOf word.toList ≠ [] := fun h => hne (bytesOf_inj h)
  have hnamed : FromName (bytesOf (joined path).toList) (bytesOf word.toList) →
      isNameless (bytesOf (joined path).toList) = false := by
    intro hfrom
    rw [isNameless_of_fromName hfrom (slash_not_mem_bytesOf hslash), beq_eq_false_iff_ne]
    intro hback
    exact hdots (@bytesOf_inj word ".." (by rw [← List.reverse_reverse (bytesOf _), hback]; rfl))
  rw [← mem_bytesOf, mem_iff_fromName (slash_not_mem_names hpath) hbytes
    (slash_not_mem_bytesOf hslash), ← bytesOf_joined]
  simp only [anyMatches, wordPatterns, List.any_cons, List.any_nil, Bool.or_false, Bool.or_eq_true]
  refine or_congr ?_ ?_
  · rw [matchesPath_iff (by simpa using hne), mem_restsOf_word]
    simp only [restsOf, List.mem_singleton, exists_eq_right', List.append_nil]
    exact ⟨fun h => h.2, fun h => ⟨fun _ => hnamed h, h⟩⟩
  · rw [matchesPath_iff (by simp), mem_restsOf_word, asksForName_trailing]
    simp [nil_mem_restsOf_trailing]

/-- The patterns for a dot match the paths with a name that starts with one. -/
theorem matches_dot {path : List String} (hpath : IsPath path) :
    anyMatches dotPatterns (joined path) = true ↔
      ∃ name ∈ path, name.toList.head? = some '.' := by
  have hheads : (∃ name ∈ path, name.toList.head? = some '.') ↔
      ∃ n ∈ path.map (fun n => bytesOf n.toList), n.head? = some 0x2E := by
    simp only [List.mem_map, exists_exists_and_eq_and, head?_bytesOf]
  rw [hheads, head?_iff_fromName (slash_not_mem_names hpath) (by decide), ← bytesOf_joined]
  simp only [anyMatches, dotPatterns, List.any_cons, List.any_nil, Bool.or_false, Bool.or_eq_true]
  constructor
  · rintro (h | h)
    all_goals
      rw [matchesPath_iff (by simp), mem_restsOf_word] at h
      obtain ⟨-, q, hfrom, -⟩ := h
      exact ⟨q, hfrom⟩
  · rintro ⟨more, hfrom⟩
    refine .inl ((matchesPath_iff (by simp) _).mpr ⟨nofun, ?_⟩)
    exact mem_restsOf_word.mpr ⟨more, hfrom, nil_mem_restsOf_many⟩

/-- The patterns of every workspace match the paths with an excluded name. -/
theorem anyMatches_defaultPatterns {path : List String} (hpath : IsPath path) :
    anyMatches defaultPatterns (joined path) = true ↔ ∃ name ∈ path, Excluded name := by
  have hwords : ∀ word ∈ ["node_modules", "dist", "build"],
      word ≠ "" ∧ word ≠ ".." ∧ '/' ∉ word.toList := by decide
  have hany : anyMatches defaultPatterns (joined path) = true ↔
      (∃ word ∈ ["node_modules", "dist", "build"],
        anyMatches (wordPatterns word) (joined path) = true) ∨
        anyMatches dotPatterns (joined path) = true := by
    simp only [anyMatches, defaultPatterns, List.any_append, Bool.or_eq_true, List.any_flatMap,
      List.any_eq_true]
  rw [hany, matches_dot hpath]
  simp only [Excluded, and_or_left, exists_or]
  refine or_congr_left ?_
  constructor
  · rintro ⟨word, hmem, hmatch⟩
    exact ⟨word, (matches_word (hwords word hmem) hpath).mp hmatch, hmem⟩
  · rintro ⟨word, hpath', hmem⟩
    exact ⟨word, hmem, (matches_word (hwords word hmem) hpath).mpr hpath'⟩

/-! ## Configurations -/

theorem patternsOf_ok {texts : List String}
    (h : ∀ text ∈ texts, ∃ p, Pattern.ofText text = .ok p) : ∃ ps, patternsOf texts = .ok ps := by
  induction texts with
  | nil => exact ⟨[], rfl⟩
  | cons text texts ih =>
    obtain ⟨⟨p, hp⟩, hrest⟩ := List.forall_mem_cons.mp h
    obtain ⟨ps, hps⟩ := ih hrest
    refine ⟨p :: ps, ?_⟩
    rw [patternsOf] at hps ⊢
    rw [List.mapM_cons, hp, hps]
    rfl

theorem patternsOf_append {a b : List String} {ps qs : List Pattern} (ha : patternsOf a = .ok ps)
    (hb : patternsOf b = .ok qs) : patternsOf (a ++ b) = .ok (ps ++ qs) := by
  rw [patternsOf] at ha hb ⊢
  rw [List.mapM_append, ha, hb]
  rfl

/-- A configuration whose patterns can be read has a filter, in which the patterns of every
workspace come before its own ones. -/
theorem filter_of_valid {c : Configuration}
    (h : ∀ text ∈ c.wanted ++ c.unwanted, ∃ p, Pattern.ofText text = .ok p) :
    ∃ wanted unwanted, c.filter = .ok ⟨wanted, defaultPatterns ++ unwanted⟩ ∧
      (c.unwanted = [] → unwanted = []) := by
  obtain ⟨hwanted, hunwanted⟩ := List.forall_mem_append.mp h
  obtain ⟨ps, hps⟩ := patternsOf_ok hwanted
  obtain ⟨qs, hqs⟩ := patternsOf_ok hunwanted
  have hexcludes : patternsOf c.excludes = .ok (defaultPatterns ++ qs) :=
    patternsOf_append patternsOf_defaultExcludes hqs
  refine ⟨if c.wanted.isEmpty then none else some ps, qs, ?_, fun hnone => ?_⟩
  · rw [Configuration.filter, Filter.ofPatterns, hps, hexcludes]
    cases c.wanted.isEmpty <;> rfl
  · rw [hnone] at hqs
    exact (Except.ok.inj hqs).symm

/-- A path with an excluded name is matched by every filter with the patterns of every workspace. -/
theorem not_counted {wanted : Option (List Pattern)} {unwanted : List Pattern} {path : List String}
    (hpath : IsPath path) (h : ∃ name ∈ path, Excluded name) :
    (⟨wanted, defaultPatterns ++ unwanted⟩ : Filter).takesFile (joined path) = false ∧
      (⟨wanted, defaultPatterns ++ unwanted⟩ : Filter).entersDirectory (joined path) = false := by
  have hmatch : anyMatches (defaultPatterns ++ unwanted) (joined path) = true := by
    rw [anyMatches, List.any_append, Bool.or_eq_true]
    exact .inl ((anyMatches_defaultPatterns hpath).mpr h)
  simp [Filter.takesFile, Filter.entersDirectory, hmatch]

/-- With the patterns of every workspace alone, the directories that are searched are those without
an excluded name on the way. -/
theorem entersDirectory_default {wanted : Option (List Pattern)} {path : List String}
    (hpath : IsPath path) :
    (⟨wanted, defaultPatterns⟩ : Filter).entersDirectory (joined path) = true ↔
      ∀ name ∈ path, ¬ Excluded name := by
  rw [Filter.entersDirectory, Bool.not_eq_true', ← Bool.not_eq_true,
    anyMatches_defaultPatterns hpath]
  simp

/-- A configuration whose patterns can be read has a filter. On a path with an excluded name, and on
all paths below it, no file counts and no directory is searched. If the configuration excludes
nothing itself, every other path is searched, so that no file that counts is below a directory that
is passed over. -/
theorem excluded_exactly (c : Configuration)
    (hvalid : ∀ text ∈ c.wanted ++ c.unwanted, ∃ p, Pattern.ofText text = .ok p) :
    ∃ f, c.filter = .ok f ∧ ∀ path, IsPath path →
      ((∃ name ∈ path, Excluded name) → ∀ below, IsPath below →
        f.takesFile (joined (path ++ below)) = false ∧
        f.entersDirectory (joined (path ++ below)) = false) ∧
      (c.unwanted = [] →
        (f.entersDirectory (joined path) = true ↔ ∀ name ∈ path, ¬ Excluded name) ∧
        (f.entersDirectory (joined path) = false → ∀ below, IsPath below →
          f.takesFile (joined (path ++ below)) = false)) := by
  obtain ⟨wanted, unwanted, hfilter, hnone⟩ := filter_of_valid hvalid
  refine ⟨_, hfilter, fun path hpath => ⟨fun hbad below hbelow => ?_, fun hunwanted => ?_⟩⟩
  · exact not_counted (isPath_append.mpr ⟨hpath, hbelow⟩)
      (hbad.imp fun name h => ⟨List.mem_append_left _ h.1, h.2⟩)
  · rw [hnone hunwanted, List.append_nil]
    refine ⟨entersDirectory_default hpath, fun hpruned below hbelow => ?_⟩
    have hbad : ∃ name ∈ path, Excluded name := by
      by_contra hfree
      have hall : ∀ name ∈ path, ¬ Excluded name := fun name hmem he => hfree ⟨name, hmem, he⟩
      exact Bool.false_ne_true (hpruned.symm.trans ((entersDirectory_default hpath).mpr hall))
    have hcounted := @not_counted wanted [] _ (isPath_append.mpr ⟨hpath, hbelow⟩)
      (hbad.imp fun name h => ⟨List.mem_append_left _ h.1, h.2⟩)
    rw [List.append_nil] at hcounted
    exact hcounted.1

/-- A configuration that asks for the files of packages. -/
def packagesConfiguration : Configuration := { wanted := ["node_modules/*.tsx"] }

/-- The files of packages do not count even if they are asked for. -/
theorem excluded_exactly_packages :
    (∀ text ∈ packagesConfiguration.wanted ++ packagesConfiguration.unwanted,
      ∃ p, Pattern.ofText text = .ok p) ∧
    IsPath ["node_modules"] ∧ Excluded "node_modules" ∧ IsPath ["lib", "Button.tsx"] ∧
    ∃ f, packagesConfiguration.filter = .ok f ∧
      f.takesFile (joined ["node_modules", "lib", "Button.tsx"]) = false ∧
      f.entersDirectory (joined ["node_modules", "lib", "Button.tsx"]) = false := by
  have hvalid : ∀ text ∈ packagesConfiguration.wanted ++ packagesConfiguration.unwanted,
      ∃ p, Pattern.ofText text = .ok p :=
    List.forall_mem_singleton.mpr ⟨_, rfl⟩
  have hpath : IsPath ["node_modules"] := by decide
  have hbelow : IsPath ["lib", "Button.tsx"] := by decide
  have hbad : Excluded "node_modules" := .inl (by decide)
  obtain ⟨f, hf, hall⟩ := excluded_exactly packagesConfiguration hvalid
  have hno := (hall _ hpath).1 ⟨_, List.mem_singleton_self _, hbad⟩ _ hbelow
  exact ⟨hvalid, hpath, hbad, hbelow, f, hf, hno⟩

end Nameplate.Settings
