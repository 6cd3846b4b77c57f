import Nameplate.Proofs.Component.Recognized

/-!
# Which statements belong to a component

The name of a component and its siblings are said by statements of the form
`Name.property = value` at the top of its file, behind its declaration.

* `Sets`: a statement sets a property of a name, behind an offset;
* `HasValue`: what is said about a right side;
* `hasValue_valueOfRight`: that is how right sides are read;
* `existing_attributed`, `siblings_attributed`: the name and the siblings of a candidate;
* `attributed_exactly`: no statement is lost, and none belongs to another component.
-/

namespace Nameplate

open Text (Range byteLength slice)
open Tsx (Node Kind)

/-! ## Right sides -/

/-- A string, or a template without substitutions. -/
def IsString (n : Node) : Prop :=
  n.kind = .string ∨ n.kind = .template ∧ ∀ p ∈ n.parts, p.kind ≠ .substitution

/-- A right side is a string of at least two bytes, in parentheses or not. -/
def HoldsString (source : List Char) (r : Node) : Prop :=
  ∃ m, Bare r m ∧ IsString m ∧ 2 ≤ byteLength (sourceText source m).toList

/-- What is said about a right side: its text without the first and the last character, its range
and its quote if it is a string, and nothing about any other expression. -/
inductive HasValue (source : List Char) (r : Node) : NameValue → Prop where
  | literal {m : Node} {quote : Char} {rest : List Char} : Bare r m → IsString m →
      (sourceText source m).toList = quote :: rest → 2 ≤ byteLength (quote :: rest) →
      HasValue source r (.literal (String.ofList rest.dropLast) m.range quote)
  | computed : ¬ HoldsString source r → HasValue source r .computed

theorem isStringLiteral_iff {n : Node} : isStringLiteral n = true ↔ IsString n := by
  unfold isStringLiteral IsString
  split <;> rename_i hk <;> simp_all

theorem holdsString_iff {source : List Char} {r : Node} :
    HoldsString source r ↔ IsString (unwrap r) ∧
      2 ≤ byteLength (sourceText source (unwrap r)).toList := by
  constructor
  · rintro ⟨m, hm, h⟩
    rwa [bare_iff.mp hm]
  · exact fun h => ⟨unwrap r, bare_unwrap r, h⟩

/-- That is how right sides are read. -/
theorem hasValue_valueOfRight (source : List Char) (r : Node) :
    HasValue source r (valueOfRight source r) := by
  have htext : (sourceText source (unwrap r)).toList =
      (slice source (unwrap r).range).getD [] := by
    rw [sourceText, String.toList_ofList]
  unfold valueOfRight
  dsimp only
  split
  · rename_i hl
    have hl := isStringLiteral_iff.mp hl
    split
    · rename_i quote rest hs
      split
      · rename_i hlen
        refine .computed fun h => ?_
        rw [holdsString_iff, htext, hs] at h
        exact absurd h.2 (by omega)
      · exact .literal (bare_unwrap r) hl (htext.trans hs) (by omega)
    · rename_i hs
      refine .computed fun h => ?_
      rw [holdsString_iff, htext, hs] at h
      exact absurd h.2 (by decide)
  · rename_i hl
    exact .computed fun h => hl (isStringLiteral_iff.mpr (holdsString_iff.mp h).1)

/-- The text of a name is known exactly if the name is a string. -/
theorem literal?_isSome_iff {source : List Char} {r : Node} {x : ExistingName}
    (h : HasValue source r x.value) : x.literal?.isSome ↔ HoldsString source r := by
  obtain ⟨range, value⟩ := x
  cases h with
  | literal hm hs ht hlen => exact iff_of_true rfl ⟨_, hm, hs, by rwa [ht]⟩
  | computed h => exact iff_of_false Bool.false_ne_true h

/-! ## Statements -/

/-- `Sets source name stop n property r`: a node at the top of a file is the statement
`name.property = r`, and starts at the offset `stop` or behind it. -/
structure Sets (source : List Char) (name : String) (stop : Nat) (n : Node) (property : String)
    (r : Node) : Prop where
  statement : (n.label.named && !n.label.extra) = true
  assigns : ∃ e l o p, Assigns n e l o p r ∧ sourceText source o = name ∧
    sourceText source p = property
  behind : stop ≤ n.start.byte

/-- A node is a statement that gives a display name. -/
def SetsName (source : List Char) (name : String) (stop : Nat) (n : Node) : Prop :=
  ∃ r, Sets source name stop n displayNameProperty r

/-- A node is a statement about another property. -/
def SetsOther (source : List Char) (name : String) (stop : Nat) (n : Node) : Prop :=
  ∃ property r, property ≠ displayNameProperty ∧ Sets source name stop n property r

section

variable {source : List Char} {name : String} {stop : Nat} {n : Node}

theorem Sets.assignmentOf_eq {property : String} {r : Node}
    (h : Sets source name stop n property r) :
    assignmentOf source n = some ⟨name, property, n.range, valueOfRight source r⟩ := by
  obtain ⟨e, l, o, p, ha, rfl, rfl⟩ := h.assigns
  exact ha.assignmentOf_eq source

/-- A node is read as a statement about some properties exactly if it is one. -/
theorem reads_iff {p : String → Bool} :
    ((n.label.named && !n.label.extra) && (assignmentOf source n).any fun a =>
      (a.object == name && decide (stop ≤ a.range.start)) && p a.property) = true ↔
    ∃ property r, p property = true ∧ Sets source name stop n property r := by
  rw [Bool.and_eq_true, Option.any_eq_true]
  constructor
  · rintro ⟨hn, a, ha, hp⟩
    obtain ⟨e, l, o, k, r, h, rfl⟩ := assignmentOf_eq_some.mp ha
    simp only [Bool.and_eq_true, beq_iff_eq, decide_eq_true_eq] at hp
    exact ⟨_, r, hp.2, hn, ⟨e, l, o, k, h, hp.1.1, rfl⟩, hp.1.2⟩
  · rintro ⟨property, r, hp, h⟩
    refine ⟨h.statement, _, h.assignmentOf_eq, ?_⟩
    simpa using ⟨h.behind, hp⟩

theorem givesName_iff_setsName : givesName source name stop n = true ↔
    SetsName source name stop n := by
  rw [givesName, reads_iff (p := fun property => property == displayNameProperty)]
  constructor
  · rintro ⟨property, r, hp, h⟩
    obtain rfl : property = displayNameProperty := by simpa using hp
    exact ⟨r, h⟩
  · rintro ⟨r, h⟩
    exact ⟨_, r, beq_self_eq_true _, h⟩

/-- Whether a statement is about another property. -/
def givesOther (source : List Char) (name : String) (stop : Nat) (n : Node) : Bool :=
  (n.label.named && !n.label.extra) && (assignmentOf source n).any fun a =>
    (a.object == name && decide (stop ≤ a.range.start)) && a.property != displayNameProperty

theorem givesOther_iff : givesOther source name stop n = true ↔ SetsOther source name stop n := by
  rw [givesOther, reads_iff (p := fun property => property != displayNameProperty)]
  simp only [SetsOther, bne_iff_ne]

instance : Decidable (SetsOther source name stop n) := decidable_of_iff _ givesOther_iff

end

/-! ## Candidates -/

/-- To choose from what a list is mapped to is to choose from the list. -/
theorem filter_filterMap_any {α β : Type} (g : α → Option β) (p : β → Bool) (xs : List α) :
    (xs.filterMap g).filter p = (xs.filter fun x => (g x).any p).filterMap g := by
  induction xs with
  | nil => rfl
  | cons x xs ih =>
    rw [List.filter_cons]
    cases hx : g x with
    | none =>
      rw [List.filterMap_cons_none hx, Option.any_none, if_neg Bool.false_ne_true, ih]
    | some y =>
      rw [List.filterMap_cons_some hx, List.filter_cons, Option.any_some]
      split
      · rw [List.filterMap_cons_some hx, ih]
      · exact ih

/-- A list side by side with what all of its members are mapped to. -/
theorem forall₂_filterMap {α β : Type} {R : α → β → Prop} {g : α → Option β} {xs : List α}
    (h : ∀ x ∈ xs, ∃ y, g x = some y ∧ R x y) : List.Forall₂ R xs (xs.filterMap g) := by
  induction xs with
  | nil => exact .nil
  | cons x xs ih =>
    obtain ⟨⟨y, hy, hR⟩, hxs⟩ := List.forall_mem_cons.mp h
    rw [List.filterMap_cons_some hy]
    exact .cons hR (ih hxs)

section

variable (source : List Char) (nodes : List Node) (d : Declaration) (i : Nat)

/-- The siblings of a candidate are given by the statements about its other properties. -/
theorem siblings_candidateOf :
    (candidateOf (assignmentsIn source nodes) d i).siblings =
      ((nodes.filter fun n => SetsOther source d.name d.range.stop n).filterMap
        (assignmentOf source)).map fun a => ⟨a.property, a.range⟩ := by
  have hfilter : (nodes.filter fun n => SetsOther source d.name d.range.stop n) =
      nodes.filter (givesOther source d.name d.range.stop) :=
    List.filter_congr fun n _ => by rw [Bool.eq_iff_iff, decide_eq_true_iff, givesOther_iff]
  dsimp only [candidateOf]
  rw [List.filter_filter, assignmentsIn_eq, filter_filterMap_any, List.filter_filter, hfilter]
  congr 3
  funext n
  simp only [givesOther, Bool.and_comm]

end

/-- The name and the siblings of a candidate are what the statements behind its declaration say. -/
structure Attributed (source : List Char) (nodes : List Node) (c : Candidate) : Prop where
  /-- A candidate has no name if no statement gives one. -/
  unnamed : c.existing = none ↔ ∀ n ∈ nodes, ¬ SetsName source c.name c.range.stop n
  /-- The name of a candidate is what the first statement says that gives one. -/
  named : ∀ x ∈ c.existing, ∃ i n r, nodes[i]? = some n ∧
    FirstWhere (SetsName source c.name c.range.stop) nodes i ∧
      Sets source c.name c.range.stop n displayNameProperty r ∧ x.range = n.range ∧
        HasValue source r x.value ∧ (x.literal?.isSome ↔ HoldsString source r)
  /-- The siblings of a candidate are the statements about its other properties, in their order. -/
  siblings : List.Forall₂
    (fun n s => s.range = n.range ∧ ∃ r, Sets source c.name c.range.stop n s.property r)
    (nodes.filter fun n => SetsOther source c.name c.range.stop n) c.siblings

section

variable {source : List Char} {nodes : List Node} {d : Declaration} {i : Nat}

theorem existing_eq_none_iff : (candidateOf (assignmentsIn source nodes) d i).existing = none ↔
    ∀ n ∈ nodes, ¬ SetsName source d.name d.range.stop n := by
  rw [existing_candidateOf]
  constructor
  · intro h n hn hset
    cases hfind : nodes.find? (givesName source d.name d.range.stop) with
    | none => exact List.find?_eq_none.mp hfind n hn (givesName_iff_setsName.mpr hset)
    | some m =>
      obtain ⟨r, hm⟩ := givesName_iff_setsName.mp (List.find?_some hfind)
      simp [hfind, hm.assignmentOf_eq] at h
  · intro h
    rw [List.find?_eq_none.mpr fun n hn => mt givesName_iff_setsName.mp (h n hn), Option.bind_none]

theorem existing_attributed {x : ExistingName}
    (hx : (candidateOf (assignmentsIn source nodes) d i).existing = some x) :
    ∃ i n r, nodes[i]? = some n ∧ FirstWhere (SetsName source d.name d.range.stop) nodes i ∧
      Sets source d.name d.range.stop n displayNameProperty r ∧ x.range = n.range ∧
        HasValue source r x.value ∧ (x.literal?.isSome ↔ HoldsString source r) := by
  rw [existing_candidateOf] at hx
  obtain ⟨n, hfind, hx⟩ := Option.bind_eq_some_iff.mp hx
  obtain ⟨i, hi, hfirst⟩ := firstWhere_of_find? (fun _ => givesName_iff_setsName) hfind
  obtain ⟨r, hr⟩ := givesName_iff_setsName.mp (List.find?_some hfind)
  rw [hr.assignmentOf_eq] at hx
  obtain rfl := Option.some.inj hx
  have hvalue := hasValue_valueOfRight source r
  exact ⟨i, n, r, hi, hfirst, hr, rfl, hvalue, literal?_isSome_iff hvalue⟩

theorem siblings_attributed : List.Forall₂
    (fun n s => s.range = n.range ∧ ∃ r, Sets source d.name d.range.stop n s.property r)
    (nodes.filter fun n => SetsOther source d.name d.range.stop n)
    (candidateOf (assignmentsIn source nodes) d i).siblings := by
  rw [siblings_candidateOf, List.forall₂_map_right_iff]
  refine forall₂_filterMap fun n hn => ?_
  obtain ⟨property, r, -, h⟩ := of_decide_eq_true (List.mem_filter.mp hn).2
  exact ⟨_, h.assignmentOf_eq, rfl, r, h⟩

theorem attributed_of_mem {c : Candidate} (h : c ∈ candidatesIn source nodes) :
    Attributed source nodes c := by
  obtain ⟨⟨d, i⟩, -, rfl⟩ := List.mem_map.mp h
  exact ⟨existing_eq_none_iff, fun _ => existing_attributed, siblings_attributed⟩

end

/-- The candidates of a tree without an error have their names and siblings from the statements
about them behind their declarations: none is lost, and none is given to another candidate. -/
theorem attributed_exactly {root : Node} (clean : root.label.hasError = false)
    (source : List Char) :
    ∃ candidates, analyzeTree root source = .ok candidates ∧
      ∀ c ∈ candidates, Attributed source root.children c :=
  ⟨_, analyzeTree_eq clean source, fun _ => attributed_of_mem⟩

theorem attributed_exactly_sample : Tsx.fileTree.label.hasError = false ∧
    ∃ candidates, analyzeTree Tsx.fileTree Tsx.fileText = .ok candidates ∧
      candidates.map (fun c => (c.existing.bind ExistingName.literal?,
        c.siblings.map Sibling.property)) = [(some "X", []), (none, ["note"])] ∧
      ∀ c ∈ candidates, Attributed Tsx.fileText Tsx.fileTree.children c := by
  have clean : Tsx.fileTree.label.hasError = false := rfl
  obtain ⟨candidates, h, hattributed⟩ := attributed_exactly clean Tsx.fileText
  refine ⟨clean, candidates, h, ?_, hattributed⟩
  have hsaid : (analyzeTree Tsx.fileTree Tsx.fileText).toOption.map
      (fun cs => cs.map fun c => (c.existing.bind ExistingName.literal?,
        c.siblings.map Sibling.property)) = some [(some "X", []), (none, ["note"])] := by
    decide +kernel
  rw [h] at hsaid
  exact Option.some.inj hsaid

end Nameplate
