import Mathlib.Data.List.Infix
import Mathlib.Data.List.TakeWhile
import Nameplate.Glob.Match
import Nameplate.Proofs.Text.Bytes

/-!
# What patterns match

A pattern is matched from left to right: each token leaves a part of the path for the next one. A
pattern that starts with `**/` is matched from the start of any name of the path on.

* `mem_restsOf_cons`: what a list of tokens leaves, token by token;
* `FromName`: the end of a path from the start of a name on;
* `mem_restsOf_word`: what `**/` and a word leave;
* `matchesPath_iff`: when a pattern matches a path;
* `fromName_joined`: the ends of a path that start with a name;
* `mem_iff_fromName`, `head?_iff_fromName`: the names of a path, and how they start.
-/

namespace Nameplate.Glob

open Text (bytesOf bytesOf_cons)

/-! ## Tokens -/

theorem mem_suffixes {α : Type} {l r : List α} : r ∈ suffixes l ↔ r <:+ l := by
  induction l with
  | nil => rw [suffixes, List.mem_singleton, List.suffix_nil]
  | cons a l ih => rw [suffixes, List.mem_cons, ih, List.suffix_cons_iff]

theorem strip_eq_some {bytes path r : List UInt8} :
    strip bytes path = some r ↔ path = bytes ++ r := by
  induction bytes generalizing path with
  | nil => simp [strip]
  | cons b bytes ih =>
    cases path with
    | nil => simp [strip]
    | cons c path =>
      rw [strip]
      split
      case isTrue h => simp [ih, (eq_of_beq h).symm]
      case isFalse h => simpa using fun hcb => absurd (beq_iff_eq.mpr hcb.symm) h

theorem mem_restsOf {ts : List Token} {paths : List (List UInt8)} {r : List UInt8} :
    r ∈ restsOf ts paths ↔ ∃ path ∈ paths, r ∈ restsOf ts [path] := by
  induction ts generalizing paths with
  | nil => simp [restsOf]
  | cons t ts ih =>
    simp only [restsOf]
    rw [ih]
    simp only [List.mem_eraseDups, List.mem_flatMap]
    constructor
    · rintro ⟨q, ⟨path, hpath, hq⟩, hr⟩
      refine ⟨path, hpath, ih.mpr ⟨q, ?_, hr⟩⟩
      simpa using hq
    · rintro ⟨path, hpath, hr⟩
      obtain ⟨q, hq, hr⟩ := ih.mp hr
      exact ⟨q, ⟨path, hpath, by simpa using hq⟩, hr⟩

/-- What a list of tokens leaves is what the others leave of what the first one leaves. -/
theorem mem_restsOf_cons {t : Token} {ts : List Token} {path r : List UInt8} :
    r ∈ restsOf (t :: ts) [path] ↔ ∃ q ∈ t.rests path, r ∈ restsOf ts [q] := by
  rw [restsOf, mem_restsOf]
  simp only [List.mem_eraseDups, List.flatMap_cons, List.flatMap_nil, List.append_nil]

theorem mem_rests_literal {c : Char} {path q : List UInt8} :
    q ∈ (Token.literal c).rests path ↔ path = String.utf8EncodeChar c ++ q := by
  rw [Token.rests, Option.mem_toList, ← strip_eq_some]

/-- A word leaves what stands behind it. -/
theorem mem_restsOf_literals {word : List Char} {ts : List Token} {path r : List UInt8} :
    r ∈ restsOf (word.map .literal ++ ts) [path] ↔
      ∃ q, path = bytesOf word ++ q ∧ r ∈ restsOf ts [q] := by
  induction word generalizing path with
  | nil => simp [bytesOf]
  | cons c word ih =>
    rw [List.map_cons, List.cons_append, mem_restsOf_cons]
    simp only [mem_rests_literal, ih, bytesOf_cons]
    constructor
    · rintro ⟨_, rfl, q, rfl, hr⟩
      exact ⟨q, (List.append_assoc ..).symm, hr⟩
    · rintro ⟨q, rfl, hr⟩
      exact ⟨_, List.append_assoc .., q, rfl, hr⟩

/-- The end of a path from the start of a name on. -/
def FromName (path part : List UInt8) : Prop := part = path ∨ slash :: part <:+ path

theorem mem_rests_leading {path q : List UInt8} :
    q ∈ Token.leading.rests path ↔ FromName path q := by
  rw [Token.rests, List.mem_cons, behindSlashes, List.mem_filterMap]
  simp only [mem_suffixes, strip_eq_some, List.singleton_append]
  constructor
  · rintro (rfl | ⟨_, hle, rfl⟩)
    · exact .inl rfl
    · exact .inr hle
  · rintro (rfl | hle)
    · exact .inl rfl
    · exact .inr ⟨_, hle, rfl⟩

/-- A word behind `**/` leaves what stands behind the word where it starts a name. -/
theorem mem_restsOf_word {word : List Char} {ts : List Token} {path r : List UInt8} :
    r ∈ restsOf (.leading :: (word.map .literal ++ ts)) [path] ↔
      ∃ q, FromName path (bytesOf word ++ q) ∧ r ∈ restsOf ts [q] := by
  simp only [mem_restsOf_cons, mem_rests_leading, mem_restsOf_literals]
  constructor
  · rintro ⟨_, hfrom, q, rfl, hr⟩
    exact ⟨q, hfrom, hr⟩
  · rintro ⟨q, hfrom, hr⟩
    exact ⟨_, hfrom, q, rfl, hr⟩

/-- Everything behind a slash may be left out at `/**`. -/
theorem nil_mem_restsOf_trailing {path : List UInt8} :
    [] ∈ restsOf [.trailing] [path] ↔ ∃ more, path = slash :: more := by
  rw [mem_restsOf_cons]
  simp only [Token.rests, restsOf, List.mem_singleton]
  constructor
  · rintro ⟨q, hq, -⟩
    split at hq
    · exact ⟨_, strip_eq_some.mp ‹_›⟩
    · cases hq
  · rintro ⟨more, rfl⟩
    refine ⟨[], ?_, rfl⟩
    rw [strip_eq_some.mpr List.singleton_append.symm]
    exact mem_suffixes.mpr List.nil_suffix

theorem nil_mem_restsOf_many {path : List UInt8} : [] ∈ restsOf [.many] [path] := by
  rw [mem_restsOf_cons]
  exact ⟨[], mem_suffixes.mpr List.nil_suffix, List.mem_singleton.mpr rfl⟩

/-! ## Patterns -/

theorem matchesPath_iff {p : Pattern} (h : p.tokens ≠ [.leading]) (path : String) :
    p.matchesPath path = true ↔
      (asksForName p.tokens = true → isNameless (bytesOf path.toList) = false) ∧
        [] ∈ restsOf p.tokens [bytesOf path.toList] := by
  unfold Pattern.matchesPath
  split
  case h_1 hleading => exact absurd hleading h
  case h_2 =>
    rw [Bool.and_eq_true, List.any_eq_true]
    refine and_congr ?_ ?_
    · cases asksForName p.tokens <;> simp
    · simp [List.isEmpty_iff]

/-- A pattern that ends with `/**` does not ask for a name. -/
theorem asksForName_trailing (word : List Char) :
    asksForName (.leading :: (word.map .literal ++ [.trailing])) = false := by
  have hextension : isExtension (word.map .literal ++ [.trailing]) = false := by
    cases word <;> rfl
  have hends : endsWithExtension (word.map .literal ++ [.trailing]) = false := by
    rw [endsWithExtension, List.reverse_append]
    rfl
  simp [asksForName, hextension, hends, Token.literal?]

/-- The last name of a path tells whether the path has a name. -/
theorem isNameless_of_fromName {path name : List UInt8} (h : FromName path name)
    (hslash : slash ∉ name) : isNameless path = (name.reverse == [0x2E, 0x2E]) := by
  have hall : ∀ b ∈ name.reverse, (b != slash) = true := fun b hb =>
    bne_iff_ne.mpr fun he => hslash (he ▸ List.mem_reverse.mp hb)
  rw [isNameless]
  rcases h with rfl | ⟨front, rfl⟩
  · rw [List.takeWhile_eq_self_iff.mpr hall]
  · rw [List.reverse_append, List.reverse_cons, List.append_assoc,
      List.takeWhile_append_of_pos hall]
    simp

/-! ## Names -/

/-- Two texts up to the first slash are the same. -/
theorem eq_of_append_slash {a b x y : List UInt8} (ha : slash ∉ a) (hb : slash ∉ b)
    (h : a ++ slash :: x = b ++ slash :: y) : a = b := by
  induction a generalizing b with
  | nil =>
    cases b with
    | nil => rfl
    | cons c b =>
      obtain ⟨rfl, -⟩ := List.cons.inj h
      exact absurd List.mem_cons_self hb
  | cons c a ih =>
    cases b with
    | nil =>
      obtain ⟨rfl, -⟩ := List.cons.inj h
      exact absurd List.mem_cons_self ha
    | cons d b =>
      obtain ⟨rfl, hrest⟩ := List.cons.inj h
      rw [List.mem_cons, not_or] at ha hb
      rw [ih ha.2 hb.2 hrest]

theorem fromName_append {name path part : List UInt8} (h : slash ∉ name) :
    FromName (name ++ slash :: path) part ↔
      part = name ++ slash :: path ∨ FromName path part := by
  refine or_congr_right ⟨?_, ?_⟩
  · intro hle
    induction name with
    | nil =>
      rcases List.suffix_cons_iff.mp hle with heq | hle
      · exact .inl (List.cons.inj heq).2
      · exact .inr hle
    | cons c name ih =>
      rw [List.mem_cons, not_or] at h
      rcases List.suffix_cons_iff.mp hle with heq | hle
      · exact absurd (List.cons.inj heq).1 h.1
      · exact ih h.2 hle
  · rintro (rfl | hle)
    · exact List.suffix_append _ _
    · exact hle.trans ((List.suffix_cons _ _).trans (List.suffix_append _ _))

theorem intercalate_cons (name : List UInt8) {names : List (List UInt8)} (h : names ≠ []) :
    [slash].intercalate (name :: names) = name ++ slash :: [slash].intercalate names := by
  obtain ⟨next, names, rfl⟩ := List.exists_cons_of_ne_nil h
  rw [List.intercalate_cons_cons, List.append_assoc, List.singleton_append]

/-- What goes from the start of a name of a path to the end is a path itself. -/
theorem fromName_intercalate {names : List (List UInt8)} (h : ∀ n ∈ names, slash ∉ n)
    {part : List UInt8} (hpart : part ≠ []) : FromName ([slash].intercalate names) part ↔
      ∃ n more, n :: more <:+ names ∧ part = [slash].intercalate (n :: more) := by
  induction names with
  | nil => simp [FromName, hpart]
  | cons name names ih =>
    obtain ⟨hname, hnames⟩ := List.forall_mem_cons.mp h
    simp only [List.suffix_cons_iff, or_and_right, exists_or, List.cons.injEq]
    by_cases hlast : names = []
    · subst hlast
      have hwithin : ¬ slash :: part <:+ name := fun hle => hname (hle.mem List.mem_cons_self)
      simp [FromName, hwithin]
    · rw [intercalate_cons name hlast, fromName_append hname, ih hnames]
      refine or_congr_left ⟨?_, ?_⟩
      · exact fun heq => ⟨name, names, ⟨rfl, rfl⟩, heq.trans (intercalate_cons name hlast).symm⟩
      · rintro ⟨n, more, ⟨rfl, rfl⟩, heq⟩
        exact heq.trans (intercalate_cons n hlast)

/-- A word is a name of a path exactly if it stands from the start of a name on to the end or to a
slash. -/
theorem mem_iff_fromName {names : List (List UInt8)} (h : ∀ n ∈ names, slash ∉ n)
    {word : List UInt8} (hne : word ≠ []) (hword : slash ∉ word) : word ∈ names ↔
      FromName ([slash].intercalate names) word ∨
        ∃ more, FromName ([slash].intercalate names) (word ++ slash :: more) := by
  simp only [fromName_intercalate h hne,
    fromName_intercalate h (List.append_ne_nil_of_left_ne_nil hne _)]
  constructor
  · intro hmem
    obtain ⟨front, more, rfl⟩ := List.append_of_mem hmem
    by_cases hlast : more = []
    · exact .inl ⟨word, more, List.suffix_append _ _, by simp [hlast]⟩
    · exact .inr ⟨_, word, more, List.suffix_append _ _, (intercalate_cons word hlast).symm⟩
  · rintro (⟨n, more, hle, heq⟩ | ⟨rest, n, more, hle, heq⟩)
    · have hn : n ∈ names := hle.mem List.mem_cons_self
      by_cases hlast : more = []
      · simpa [heq, hlast] using hn
      · rw [intercalate_cons n hlast] at heq
        exact absurd (heq ▸ List.mem_append_right _ List.mem_cons_self) hword
    · have hn : n ∈ names := hle.mem List.mem_cons_self
      by_cases hlast : more = []
      · rw [hlast, List.intercalate_singleton] at heq
        exact absurd (heq ▸ List.mem_append_right _ List.mem_cons_self) (h n hn)
      · rw [intercalate_cons n hlast] at heq
        exact eq_of_append_slash hword (h n hn) heq ▸ hn

/-- A name of a path starts with a byte exactly if the byte stands at the start of a name. -/
theorem head?_iff_fromName {names : List (List UInt8)} (h : ∀ n ∈ names, slash ∉ n) {b : UInt8}
    (hb : b ≠ slash) : (∃ n ∈ names, n.head? = some b) ↔
      ∃ more, FromName ([slash].intercalate names) (b :: more) := by
  simp only [fromName_intercalate h (List.cons_ne_nil b _)]
  constructor
  · rintro ⟨n, hn, hhead⟩
    obtain ⟨tail, rfl⟩ := List.head?_eq_some_iff.mp hhead
    obtain ⟨front, more, rfl⟩ := List.append_of_mem hn
    by_cases hlast : more = []
    · exact ⟨tail, _, more, List.suffix_append _ _, by simp [hlast]⟩
    · exact ⟨_, _, more, List.suffix_append _ _, (intercalate_cons (b :: tail) hlast).symm⟩
  · rintro ⟨rest, n, more, hle, heq⟩
    refine ⟨n, hle.mem List.mem_cons_self, ?_⟩
    by_cases hlast : more = []
    · rw [hlast, List.intercalate_singleton] at heq
      rw [← heq, List.head?_cons]
    · rw [intercalate_cons n hlast] at heq
      cases n with
      | nil => exact absurd (List.cons.inj heq).1 hb
      | cons c n => rw [List.head?_cons, (List.cons.inj heq).1]

end Nameplate.Glob
