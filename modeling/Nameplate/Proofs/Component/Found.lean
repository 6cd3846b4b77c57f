import Mathlib.Data.List.Forall2
import Mathlib.Data.List.Nodup
import Mathlib.Data.Option.Basic
import Nameplate.Component.Analysis
import Nameplate.Proofs.Tsx.Placed

/-!
# Where components are found

What the candidates of a file are, said about the nodes at the top of its tree: the statement that
declares a component, the place where a statement may follow it, and the statements that assign to
its properties.

* `Assigns`: the nodes of a statement that assigns to a property;
* `candidatesIn`: the candidates of the nodes at the top of a file;
* `statement_of_mem`: the statement that declares a candidate;
* `existing_candidateOf`: the statement that gives a candidate its name.
-/

namespace Nameplate

open Text (Range slice slice_eq_some byteLength)
open Tsx (Node Placed)

/-! ## Parentheses -/

theorem unwrapFirst_eq (cs : List Node) :
    unwrapFirst cs = (cs.filter fun c => c.label.named && !c.label.extra).head?.map unwrap := by
  induction cs with
  | nil => rfl
  | cons c cs ih =>
    rw [unwrapFirst]
    split
    · rename_i h
      simp [h]
    · rename_i h
      rw [ih, List.filter_cons, if_neg h]

theorem unwrap_eq (n : Node) :
    unwrap n = if n.kind = .parenthesized then (n.parts.head?.map unwrap).getD n else n := by
  obtain ⟨l, cs⟩ := n
  rw [unwrap, unwrapFirst_eq]
  simp [Node.kind, Node.label, Node.parts, Node.children]

theorem unwrap_mem_nodes (n : Node) : unwrap n ∈ n.nodes := by
  induction n with
  | mk l cs ih =>
    rw [unwrap_eq]
    split
    · cases hp : (Node.mk l cs).parts.head? with
      | none => exact Node.self_mem_nodes _
      | some c =>
        have hc := Node.child_of_head?_parts hp
        exact Node.mem_nodes.mpr (.inr ⟨c, hc, ih c hc⟩)
    · exact Node.self_mem_nodes _

/-! ## Assignments -/

/-- `Assigns s e l o p r`: the statement `s` is the assignment `e` with the left side `l`, which is
the property `p` of the object `o`, and the right side `r`. -/
structure Assigns (s e l o p r : Node) : Prop where
  statement : s.kind = .expressionStatement
  first : s.parts.head? = some e
  assignment : e.kind = .assignment
  left : e.field? .left = some l
  member : l.kind = .member
  object : l.field? .object = some o
  property : l.field? .property = some p
  name : o.kind = .identifier
  key : p.kind = .propertyIdentifier
  right : e.field? .right = some r

theorem assignmentOf_eq_some {source : List Char} {s : Node} {a : PropertyAssignment} :
    assignmentOf source s = some a ↔ ∃ e l o p r, Assigns s e l o p r ∧
      a = ⟨sourceText source o, sourceText source p, s.range, valueOfRight source r⟩ := by
  constructor
  · intro h
    simp only [assignmentOf, Option.bind_eq_bind, Option.bind_eq_some_iff, Option.guard_eq_some',
      Option.pure_def, Option.some.injEq, beq_iff_eq, Bool.and_eq_true] at h
    obtain ⟨_, hs, e, he, _, hk, l, hl, _, hm, o, ho, p, hp, _, hop, r, hr, rfl⟩ := h
    exact ⟨e, l, o, p, r, ⟨hs, he, hk, hl, hm, ho, hp, hop.1, hop.2, hr⟩, rfl⟩
  · rintro ⟨e, l, o, p, r, h, rfl⟩
    simp [assignmentOf, guard, h.statement, h.first, h.assignment, h.left, h.member, h.object,
      h.property, h.name, h.key, h.right]

theorem Assigns.assignmentOf_eq {s e l o p r : Node} (h : Assigns s e l o p r)
    (source : List Char) : assignmentOf source s =
      some ⟨sourceText source o, sourceText source p, s.range, valueOfRight source r⟩ :=
  assignmentOf_eq_some.mpr ⟨e, l, o, p, r, h, rfl⟩

/-- A right side is a literal if its text has a first quote, something between, and a last quote. -/
theorem valueOfRight_eq_literal {source : List Char} {r : Node} {raw : String} {range : Range}
    {quote : Char} :
    valueOfRight source r = .literal raw range quote ↔
      isStringLiteral (unwrap r) = true ∧ range = (unwrap r).range ∧
      ∃ rest, slice source range = some (quote :: rest) ∧ 2 ≤ byteLength (quote :: rest) ∧
        raw = String.ofList rest.dropLast := by
  unfold valueOfRight
  constructor
  · intro h
    dsimp only at h
    split at h <;> [skip; cases h]
    rename_i hl
    split at h <;> [skip; cases h]
    rename_i q rest hs
    split at h <;> [cases h; skip]
    rename_i hlen
    obtain ⟨rfl, rfl, rfl⟩ := NameValue.literal.inj h
    refine ⟨hl, rfl, rest, ?_, by omega, rfl⟩
    cases ht : slice source (unwrap r).range with
    | none => rw [ht] at hs; cases hs
    | some t => rw [ht, Option.getD_some] at hs; rw [hs]
  · rintro ⟨hl, rfl, rest, hs, hlen, rfl⟩
    simp only [hl, if_true, hs, Option.getD_some]
    rw [if_neg (by omega)]

/-- The nodes of an assignment lie in the statement, its object and property before its right
side. -/
theorem Assigns.places {source : List Char} {s e l o p r : Node} (h : Assigns s e l o p r)
    (hs : Placed source s) :
    l.range.Inside s.range ∧ o.range.Inside l.range ∧ p.range.Inside l.range ∧
      r.range.Inside s.range ∧ l.stop.byte ≤ r.start.byte := by
  have he := Node.child_of_head?_parts h.first
  have hl := Node.child_of_field? h.left
  have hse := hs.inside s s.self_mem_nodes e he
  have hpe := hs.child he
  have hel := hpe.inside e e.self_mem_nodes
  have hll := (hpe.child hl).inside l l.self_mem_nodes
  exact ⟨(hel l hl).trans hse, hll o (Node.child_of_field? h.object),
    hll p (Node.child_of_field? h.property), (hel r (Node.child_of_field? h.right)).trans hse,
    hpe.sides e e.self_mem_nodes h.assignment l h.left r h.right⟩

theorem Assigns.right_mem_nodes {s e l o p r : Node} (h : Assigns s e l o p r) : r ∈ s.nodes :=
  Node.nodes_trans (Node.nodes_of_child (Node.child_of_field? h.right))
    (Node.nodes_of_child (Node.child_of_head?_parts h.first))

theorem byteLength_sourceText {source : List Char} {n : Node} (h : (slice source n.range).isSome) :
    byteLength (sourceText source n).toList = n.stop.byte - n.start.byte := by
  obtain ⟨t, ht⟩ := Option.isSome_iff_exists.mp h
  have : n.stop.byte = n.start.byte + byteLength t := (slice_eq_some.mp ht).2
  rw [sourceText, ht, Option.getD_some, String.toList_ofList]
  omega

/-- A statement about the display name has room for these eleven letters before its right side. -/
theorem Assigns.room {source : List Char} {s e l o p r : Node} (h : Assigns s e l o p r)
    (hs : Placed source s) (hp : sourceText source p = displayNameProperty) :
    s.start.byte + 11 ≤ l.stop.byte ∧ l.stop.byte ≤ s.stop.byte := by
  obtain ⟨hl, -, hpl, -, -⟩ := h.places hs
  have hmem : p ∈ s.nodes := Node.nodes_trans
    (Node.nodes_of_child (Node.child_of_field? h.property))
    (Node.nodes_trans (Node.nodes_of_child (Node.child_of_field? h.left))
      (Node.nodes_of_child (Node.child_of_head?_parts h.first)))
  have hlong : p.stop.byte - p.start.byte = 11 := by
    rw [← byteLength_sourceText (hs.covers p hmem), hp]
    decide
  simp only [Range.Inside, Node.range] at hl hpl
  omega

/-! ## Statements and the places behind them -/

theorem mem_statementsOf {ns : List Node} {s : Node} {following : List Node} :
    (s, following) ∈ statementsOf ns ↔
      (s.label.named && !s.label.extra) = true ∧ ∃ front, ns = front ++ s :: following := by
  induction ns with
  | nil => simp [statementsOf]
  | cons n ns ih =>
    rw [statementsOf]
    constructor
    · intro h
      have hrest : (s, following) ∈ statementsOf ns →
          (s.label.named && !s.label.extra) = true ∧ ∃ front, n :: ns = front ++ s :: following :=
        fun h => by
          obtain ⟨hp, front, rfl⟩ := ih.mp h
          exact ⟨hp, n :: front, rfl⟩
      split at h
      · rcases List.mem_cons.mp h with h | h
        · obtain ⟨rfl, rfl⟩ := Prod.mk.inj h
          exact ⟨‹_›, [], rfl⟩
        · exact hrest h
      · exact hrest h
    · rintro ⟨hp, front, hf⟩
      cases front with
      | nil =>
        obtain ⟨rfl, rfl⟩ := List.cons.inj hf
        rw [if_pos hp]
        exact List.mem_cons_self
      | cons m front =>
        obtain ⟨rfl, rfl⟩ := List.cons.inj hf
        have h := ih.mpr ⟨hp, front, rfl⟩
        split
        · exact List.mem_cons_of_mem _ h
        · exact h

theorem statementsOf_map_fst (ns : List Node) :
    (statementsOf ns).map Prod.fst = ns.filter fun n => n.label.named && !n.label.extra := by
  induction ns with
  | nil => rfl
  | cons n ns ih =>
    rw [statementsOf, List.filter_cons]
    split
    · rw [List.map_cons, ih]
    · exact ih

theorem pastComments_cases (row stop : Nat) (ns : List Node) :
    pastComments row stop ns = stop ∨ ∃ n ∈ ns, pastComments row stop ns = n.stop.byte := by
  induction ns generalizing stop with
  | nil => exact .inl rfl
  | cons n ns ih =>
    rw [pastComments]
    split
    · rcases ih n.stop.byte with h | ⟨m, hm, h⟩
      · exact .inr ⟨n, List.mem_cons_self, h⟩
      · exact .inr ⟨m, List.mem_cons_of_mem _ hm, h⟩
    · exact .inl rfl

/-- A statement may follow where the declaration stops, or a node behind it. -/
theorem insertionPoint_cases (s : Node) (following : List Node) :
    ∃ m ∈ s :: following, insertionPoint s following = m.stop.byte := by
  rcases pastComments_cases s.stop.row s.stop.byte following with h | ⟨m, hm, h⟩
  · exact ⟨s, List.mem_cons_self, h⟩
  · exact ⟨m, List.mem_cons_of_mem _ hm, h⟩

/-- The place behind a declaration is behind its end. -/
theorem stop_le_insertionPoint {source : List Char} {root : Node} (placed : Placed source root)
    {front following : List Node} {s : Node} (hs : root.children = front ++ s :: following) :
    s.stop.byte ≤ insertionPoint s following := by
  obtain ⟨m, hm, hi⟩ := insertionPoint_cases s following
  rw [hi]
  rcases List.mem_cons.mp hm with rfl | hm
  · exact Nat.le_refl _
  · have horder := placed.inOrder root root.self_mem_nodes
    rw [hs] at horder
    have hle := (List.pairwise_cons.mp (List.pairwise_append.mp horder).2.1).1 m hm
    exact Nat.le_trans hle (placed.child (by simp [hs, hm])).start_le_stop

/-! ## Declarations -/

theorem range_of_mem_componentsOf {source : List Char} {range : Range} {n : Node} {d : Declaration}
    (h : d ∈ componentsOf source range n) :
    d.range = range ∧ (n.kind = .lexicalDeclaration ∨ n.kind = .functionDeclaration) := by
  unfold componentsOf at h
  split at h
  · rename_i hk
    split at h <;> [skip; cases h]
    obtain ⟨m, -, hm⟩ := List.mem_filterMap.mp h
    simp only [declaratorComponent, Option.bind_eq_bind, Option.bind_eq_some_iff, Option.pure_def,
      Option.some.injEq] at hm
    obtain ⟨_, -, name, -, _, -, value, -, form, -, rfl⟩ := hm
    exact ⟨rfl, .inl hk⟩
  · rename_i hk
    split at h <;> [skip; cases h]
    obtain rfl := List.mem_singleton.mp h
    exact ⟨rfl, .inr hk⟩
  · cases h

/-- A declaration covers its statement, which makes no assignment. -/
theorem range_of_mem_declarationsOf {source : List Char} {s : Node} {d : Declaration}
    (h : d ∈ declarationsOf source s) :
    d.range = s.range ∧ s.kind ≠ .expressionStatement := by
  unfold declarationsOf at h
  split at h
  · rename_i hk
    have hk : s.kind = .exportStatement := by simpa using hk
    split at h <;> [skip; cases h]
    exact ⟨(range_of_mem_componentsOf h).1, by rw [hk]; decide⟩
  · obtain ⟨hr, hk | hk⟩ := range_of_mem_componentsOf h
    · exact ⟨hr, by rw [hk]; decide⟩
    · exact ⟨hr, by rw [hk]; decide⟩

/-- The declarations that count stand among the declarations of a file in their order. -/
theorem firstOfEachName_sublist (ds : List (Declaration × Nat)) :
    (firstOfEachName ds).Sublist ds := by
  induction ds with
  | nil => exact .slnil
  | cons d ds ih => exact .cons_cons d (List.filter_sublist.trans ih)

theorem mem_of_mem_firstOfEachName {d : Declaration × Nat} {ds : List (Declaration × Nat)}
    (h : d ∈ firstOfEachName ds) : d ∈ ds := (firstOfEachName_sublist ds).subset h

theorem firstOfEachName_pairwise (ds : List (Declaration × Nat)) :
    (firstOfEachName ds).Pairwise fun d e => d.1.name ≠ e.1.name := by
  induction ds with
  | nil => exact List.Pairwise.nil
  | cons d ds ih =>
    refine List.Pairwise.cons (fun e he => ?_) (ih.filter _)
    have := (List.mem_filter.mp he).2
    simp only [bne_iff_ne, ne_eq] at this
    exact fun h => this h.symm

/-! ## Candidates -/

/-- The declarations of the nodes at the top of a file, each with the place behind it. -/
def declarationsIn (source : List Char) (nodes : List Node) : List (Declaration × Nat) :=
  (statementsOf nodes).flatMap fun (s, following) =>
    (declarationsOf source s).map fun d => (d, insertionPoint s following)

/-- The assignments of the nodes at the top of a file. -/
def assignmentsIn (source : List Char) (nodes : List Node) : List PropertyAssignment :=
  (statementsOf nodes).filterMap fun (s, _) => assignmentOf source s

/-- The candidates of the nodes at the top of a file. -/
def candidatesIn (source : List Char) (nodes : List Node) : List Candidate :=
  (firstOfEachName (declarationsIn source nodes)).map fun (d, i) =>
    candidateOf (assignmentsIn source nodes) d i

theorem analyzeTree_eq {root : Node} (h : root.label.hasError = false) (source : List Char) :
    analyzeTree root source = .ok (candidatesIn source root.children) := by
  simp [analyzeTree, h, candidatesIn, declarationsIn, assignmentsIn]

theorem declarationsIn_map_fst (source : List Char) (nodes : List Node) :
    (declarationsIn source nodes).map Prod.fst =
      (nodes.filter fun n => n.label.named && !n.label.extra).flatMap (declarationsOf source) := by
  rw [← statementsOf_map_fst, List.flatMap_map, declarationsIn, List.map_flatMap]
  simp [Function.comp_def]

theorem assignmentsIn_eq (source : List Char) (nodes : List Node) :
    assignmentsIn source nodes =
      (nodes.filter fun n => n.label.named && !n.label.extra).filterMap (assignmentOf source) := by
  rw [← statementsOf_map_fst, List.filterMap_map]
  rfl

theorem mem_assignmentsIn {source : List Char} {nodes : List Node} {a : PropertyAssignment}
    (h : a ∈ assignmentsIn source nodes) : ∃ t ∈ nodes, assignmentOf source t = some a := by
  obtain ⟨⟨t, following⟩, ht, ha⟩ := List.mem_filterMap.mp h
  obtain ⟨-, front, rfl⟩ := mem_statementsOf.mp ht
  exact ⟨t, by simp, ha⟩

/-- Whether a statement gives a display name to a component declared before an offset. -/
def givesName (source : List Char) (name : String) (stop : Nat) (n : Node) : Bool :=
  (n.label.named && !n.label.extra) && (assignmentOf source n).any fun a =>
    (a.object == name && decide (stop ≤ a.range.start)) && a.property == displayNameProperty

theorem givesName_iff {source : List Char} {name : String} {stop : Nat} {n : Node} :
    givesName source name stop n = true ↔ (n.label.named && !n.label.extra) = true ∧
      ∃ e l o p r, Assigns n e l o p r ∧ sourceText source o = name ∧
        sourceText source p = displayNameProperty ∧ stop ≤ n.start.byte := by
  rw [givesName, Bool.and_eq_true, Option.any_eq_true]
  refine and_congr_right fun _ => ⟨?_, ?_⟩
  · rintro ⟨a, ha, hp⟩
    obtain ⟨e, l, o, p, r, h, rfl⟩ := assignmentOf_eq_some.mp ha
    simp only [Bool.and_eq_true, beq_iff_eq, decide_eq_true_eq] at hp
    exact ⟨e, l, o, p, r, h, hp.1.1, hp.2, hp.1.2⟩
  · rintro ⟨e, l, o, p, r, h, ho, hp, hstop⟩
    refine ⟨_, assignmentOf_eq_some.mpr ⟨e, l, o, p, r, h, rfl⟩, ?_⟩
    simp only [Bool.and_eq_true, beq_iff_eq, decide_eq_true_eq]
    exact ⟨⟨ho, hstop⟩, hp⟩

/-- The name a component has is given by the first statement behind it that gives one. -/
theorem existing_candidateOf (source : List Char) (nodes : List Node) (d : Declaration) (i : Nat) :
    (candidateOf (assignmentsIn source nodes) d i).existing =
      (nodes.find? (givesName source d.name d.range.stop)).bind fun n =>
        (assignmentOf source n).map fun a => ⟨a.range, a.value⟩ := by
  simp only [candidateOf, assignmentsIn_eq, List.find?_filter, List.find?_filterMap,
    Option.map_bind, Bool.decide_and, Bool.decide_eq_true]
  rfl

section

variable {source : List Char} {nodes : List Node} {c : Candidate}

theorem candidatesIn_pairwise (source : List Char) (nodes : List Node) :
    (candidatesIn source nodes).Pairwise fun c d => c.name ≠ d.name := by
  rw [candidatesIn, List.pairwise_map]
  exact firstOfEachName_pairwise _

/-- A candidate is known by its name. -/
theorem candidatesIn_unique {d : Candidate} (hc : c ∈ candidatesIn source nodes)
    (hd : d ∈ candidatesIn source nodes) (h : c.name = d.name) : c = d :=
  List.inj_on_of_nodup_map (List.pairwise_map.mpr (candidatesIn_pairwise source nodes)) hc hd h

/-- A candidate is declared by a statement, and a statement about it may follow there. -/
theorem statement_of_mem (h : c ∈ candidatesIn source nodes) :
    ∃ front s following, nodes = front ++ s :: following ∧
      (s.label.named && !s.label.extra) = true ∧ s.kind ≠ .expressionStatement ∧
      c.range = s.range ∧ c.insertionPoint = insertionPoint s following := by
  obtain ⟨⟨d, i⟩, hd, rfl⟩ := List.mem_map.mp h
  obtain ⟨⟨s, following⟩, hs, hi⟩ := List.mem_flatMap.mp (mem_of_mem_firstOfEachName hd)
  obtain ⟨_, hds, he⟩ := List.mem_map.mp hi
  obtain ⟨rfl, rfl⟩ := Prod.mk.inj he
  obtain ⟨hpart, front, rfl⟩ := mem_statementsOf.mp hs
  obtain ⟨hr, hk⟩ := range_of_mem_declarationsOf hds
  exact ⟨front, s, following, rfl, hpart, hk, hr, rfl⟩

theorem declared_of_mem (h : c ∈ candidatesIn source nodes) :
    ∃ front s following, nodes = front ++ s :: following ∧ s.kind ≠ .expressionStatement ∧
      c.range = s.range ∧ c.insertionPoint = insertionPoint s following := by
  obtain ⟨front, s, following, hs, -, hrest⟩ := statement_of_mem h
  exact ⟨front, s, following, hs, hrest⟩

/-- The name a candidate has is assigned to it by a statement. -/
theorem assigned_of_existing (h : c ∈ candidatesIn source nodes) {x : ExistingName}
    (hx : c.existing = some x) :
    ∃ t ∈ nodes, ∃ a, assignmentOf source t = some a ∧ a.object = c.name ∧
      a.property = displayNameProperty ∧ x = ⟨a.range, a.value⟩ := by
  obtain ⟨⟨d, i⟩, -, rfl⟩ := List.mem_map.mp h
  obtain ⟨a, ha, rfl⟩ := Option.map_eq_some_iff.mp hx
  have hp := List.find?_some ha
  obtain ⟨ha, ho⟩ := List.mem_filter.mp (List.mem_of_find?_eq_some ha)
  obtain ⟨t, ht, hat⟩ := mem_assignmentsIn ha
  simp only [beq_iff_eq, Bool.and_eq_true, decide_eq_true_eq] at hp ho
  exact ⟨t, ht, a, hat, ho.1, hp, rfl⟩

/-- A sibling of a candidate is a statement about another property. -/
theorem assigned_of_sibling (h : c ∈ candidatesIn source nodes) {x : Sibling}
    (hx : x ∈ c.siblings) :
    ∃ t ∈ nodes, ∃ a, assignmentOf source t = some a ∧ a.property ≠ displayNameProperty ∧
      x.range = t.range := by
  obtain ⟨⟨d, i⟩, -, rfl⟩ := List.mem_map.mp h
  obtain ⟨a, ha, rfl⟩ := List.mem_map.mp hx
  obtain ⟨ha, hp⟩ := List.mem_filter.mp ha
  obtain ⟨t, ht, hat⟩ := mem_assignmentsIn (List.mem_filter.mp ha).1
  obtain ⟨e, l, o, p, r, -, rfl⟩ := assignmentOf_eq_some.mp hat
  exact ⟨t, ht, _, hat, by simpa using hp, rfl⟩

end

end Nameplate
