import Nameplate.Proofs.Component.Attributed
import Nameplate.Proofs.Text.FirstEdit

/-!
# How candidates lie in a file

A candidate refers to a file by offsets: where its declaration starts and stops, where a statement
may be added behind it, and where the statements about it are. This module says how these lie to
each other and to the statements of the file.

* `Arranged`: what a parser promises about the places of nodes, rows and quotes;
* `insertionPoint_cut`: a declaration and the comments on its last row;
* `Behind`: the place where a statement may be added;
* `Assigned`: the statements about a candidate;
* `candidates_laid_out`: the candidates of a file are laid out so.
-/

namespace Nameplate

open Text (Range slice standsAt_start standsAt_stop slice_of_rowAt_eq rowAt)
open Tsx (Node Kind)

/-! ## Trees -/

/-- The text of a node starts and ends with a quote of one byte. -/
def Quoted (source : List Char) (n : Node) : Prop :=
  ∃ text quote, slice source n.range = some text ∧ text.head? = some quote ∧
    text.getLast? = some quote ∧ quote.utf8Size = 1

instance (source : List Char) (n : Node) : Decidable (Quoted source n) :=
  decidable_of_iff (((slice source n.range).any fun text => text.head?.any fun quote =>
      text.getLast? == some quote && quote.utf8Size == 1) = true)
    (by simp [Quoted, Option.any_eq_true])

/-- The nodes at the top of a tree follow each other in a source and are not empty, their rows count
line feeds, children lie inside their parent, and strings have quotes. -/
structure Arranged (source : List Char) (root : Node) : Prop where
  /-- A node covers a part of the source. -/
  covers : ∀ n ∈ root.children, (slice source n.range).isSome
  /-- Nodes follow each other. -/
  inOrder : root.children.Pairwise fun a b => a.stop.byte ≤ b.start.byte
  /-- No node is empty. -/
  full : ∀ n ∈ root.children, n.start.byte < n.stop.byte
  /-- The row of a place is the number of line feeds before it. -/
  rows : ∀ n ∈ root.children,
    n.start.row = rowAt source n.start.byte ∧ n.stop.row = rowAt source n.stop.byte
  /-- Children lie inside their parent. -/
  inside : ∀ n ∈ root.nodes, ∀ c ∈ n.children, c.range.Inside n.range
  /-- Strings and templates have quotes. -/
  quoted : ∀ n ∈ root.nodes, n.kind = .string ∨ n.kind = .template → Quoted source n

instance (source : List Char) (root : Node) : Decidable (Arranged source root) :=
  decidable_of_iff ((∀ n ∈ root.children, (slice source n.range).isSome) ∧
      (root.children.Pairwise fun a b => a.stop.byte ≤ b.start.byte) ∧
      (∀ n ∈ root.children, n.start.byte < n.stop.byte) ∧
      (∀ n ∈ root.children,
        n.start.row = rowAt source n.start.byte ∧ n.stop.row = rowAt source n.stop.byte) ∧
      (∀ n ∈ root.nodes, ∀ c ∈ n.children, c.range.Inside n.range) ∧
      ∀ n ∈ root.nodes, n.kind = .string ∨ n.kind = .template → Quoted source n)
    ⟨fun h => ⟨h.1, h.2.1, h.2.2.1, h.2.2.2.1, h.2.2.2.2.1, h.2.2.2.2.2⟩,
      fun h => ⟨h.covers, h.inOrder, h.full, h.rows, h.inside, h.quoted⟩⟩

/-! ## The place behind a declaration -/

/-- A node is a comment that starts on a row. -/
def CommentOn (row : Nat) (n : Node) : Prop := n.label.extra = true ∧ n.start.row = row

/-- The place behind a node is the stop of the last of the comments that follow at once on a row, or
of the node itself if none does. -/
theorem pastComments_cut (row : Nat) (s : Node) (ns : List Node) :
    ∃ before z rest, s :: ns = before ++ z :: rest ∧ s ∈ before ++ [z] ∧
      pastComments row s.stop.byte ns = z.stop.byte ∧
        (∀ n ∈ before ++ [z], n = s ∨ CommentOn row n) ∧ ∀ n ∈ rest.head?, ¬ CommentOn row n := by
  induction ns generalizing s with
  | nil => exact ⟨[], s, [], rfl, by simp, rfl, by simp, by simp⟩
  | cons n ns ih =>
    rw [pastComments]
    split
    · rename_i hn
      have hn : CommentOn row n := by simpa [CommentOn] using hn
      obtain ⟨before, z, rest, hcut, -, hplace, hall, hrest⟩ := ih n
      refine ⟨s :: before, z, rest, by rw [hcut]; rfl, List.mem_cons_self, hplace,
        fun m hm => ?_, hrest⟩
      rcases List.mem_cons.mp hm with rfl | hm
      · exact .inl rfl
      · rcases hall m hm with rfl | hm
        · exact .inr hn
        · exact .inr hm
    · rename_i hn
      refine ⟨[], s, n :: ns, rfl, by simp, rfl, by simp, fun m hm => ?_⟩
      obtain rfl := Option.some.inj hm
      simpa [CommentOn] using hn

/-- A place behind a declaration, among the nodes at the top of a file. -/
structure Behind (source : List Char) (nodes : List Node) (declaration : Range) (place : Nat) :
    Prop where
  /-- The place is not before the end of the declaration. -/
  behind : declaration.stop ≤ place
  /-- It is the end of the declaration, or of a comment behind it. -/
  atEnd : place = declaration.stop ∨
    ∃ n ∈ nodes, n.label.extra = true ∧ declaration.stop ≤ n.start.byte ∧ place = n.stop.byte
  /-- There are only comments before it, and no line feed up to the start of any of them. -/
  comments : ∀ n ∈ nodes, declaration.stop ≤ n.start.byte → n.start.byte < place →
    n.label.extra = true ∧
      ∃ gap, slice source ⟨declaration.stop, n.start.byte⟩ = some gap ∧ '\n' ∉ gap
  /-- The next node is no comment on the last row of the declaration. -/
  next : ∀ n ∈ nodes.find? fun n => place ≤ n.start.byte,
    ¬ (n.label.extra = true ∧ rowAt source n.start.byte = rowAt source declaration.stop)
  /-- The place is not inside of any node. -/
  outside : ∀ n ∈ nodes, ¬ (n.start.byte < place ∧ place < n.stop.byte)

section

variable {source : List Char} {root : Node}

/-- Where nodes lie before and behind one of them. -/
theorem Arranged.around (h : Arranged source root) {front back : List Node} {z : Node}
    (hz : root.children = front ++ z :: back) :
    (∀ n ∈ front, n.stop.byte ≤ z.start.byte) ∧ ∀ n ∈ back, z.stop.byte ≤ n.start.byte := by
  have horder := h.inOrder
  rw [hz] at horder
  obtain ⟨-, hback, hfront⟩ := List.pairwise_append.mp horder
  exact ⟨fun n hn => hfront n hn z List.mem_cons_self, (List.pairwise_cons.mp hback).1⟩

/-- A place behind a statement parts the nodes of a file: those behind the statement and before the
place are comments on the last row of the statement, and the next one is not. -/
structure Parted (nodes : List Node) (s : Node) (place : Nat) (past rest : List Node) : Prop where
  nodes_eq : nodes = past ++ rest
  stop_le : ∀ n ∈ past, n.stop.byte ≤ place
  le_start : ∀ n ∈ rest, place ≤ n.start.byte
  self : s ∈ past
  atEnd : ∃ z ∈ past, place = z.stop.byte ∧ (z = s ∨ s.stop.byte ≤ z.start.byte)
  comments : ∀ n ∈ past, s.stop.byte ≤ n.start.byte → CommentOn s.stop.row n
  next : ∀ n ∈ rest.head?, ¬ CommentOn s.stop.row n

theorem Arranged.parted (h : Arranged source root) {front following : List Node} {s : Node}
    (hs : root.children = front ++ s :: following) :
    ∃ past rest, Parted root.children s (insertionPoint s following) past rest := by
  obtain ⟨before, z, rest, hcut, hmem, hplace, hall, hrest⟩ :=
    pastComments_cut s.stop.row s following
  have hz : root.children = (front ++ before) ++ z :: rest := by rw [hs, hcut, List.append_assoc]
  obtain ⟨hbeforez, hbehindz⟩ := h.around hz
  obtain ⟨hbefores, hbehinds⟩ := h.around hs
  have hfullz := h.full z (by simp [hz])
  have hfulls := h.full s (by simp [hs])
  refine ⟨front ++ (before ++ [z]), rest, by simp [hz], fun n hn => ?_, ?_,
    List.mem_append_right _ hmem, ⟨z, by simp, hplace, ?_⟩, fun n hn hstop => ?_, hrest⟩
  · rw [insertionPoint, hplace]
    rw [← List.append_assoc, List.mem_append, List.mem_singleton] at hn
    rcases hn with hn | rfl
    · have := hbeforez n hn
      omega
    · exact Nat.le_refl _
  · rw [insertionPoint, hplace]
    exact hbehindz
  · have hz : z ∈ s :: following := by simp [hcut]
    exact (List.mem_cons.mp hz).imp_right (hbehinds z)
  · rcases List.mem_append.mp hn with hn | hn
    · have := hbefores n hn
      have := h.full n (by simp [hs, hn])
      omega
    · rcases hall n hn with rfl | hcomment
      · omega
      · exact hcomment

/-- The next node behind the place is the first of the rest. -/
theorem Parted.find?_eq {nodes past rest : List Node} {s : Node} {place : Nat}
    (h : Parted nodes s place past rest) (full : ∀ n ∈ nodes, n.start.byte < n.stop.byte) :
    nodes.find? (fun n => place ≤ n.start.byte) = rest.head? := by
  have hpast : past.find? (fun n => decide (place ≤ n.start.byte)) = none :=
    List.find?_eq_none.mpr fun m hm => by
      have := h.stop_le m hm
      have := full m (by simp [h.nodes_eq, hm])
      simp only [decide_eq_true_eq]
      omega
  rw [h.nodes_eq, List.find?_append, hpast, Option.none_or]
  cases hrest : rest with
  | nil => rfl
  | cons m ms =>
    have hm := h.le_start m (by simp [hrest])
    rw [List.find?_cons_of_pos (by simpa using hm), List.head?_cons]

/-- The place behind a statement and the comments on its last row. -/
theorem Arranged.behind (h : Arranged source root) {front following : List Node} {s : Node}
    (hs : root.children = front ++ s :: following) :
    Behind source root.children s.range (insertionPoint s following) := by
  obtain ⟨past, rest, parted⟩ := h.parted hs
  generalize insertionPoint s following = place at parted ⊢
  have hsmem : s ∈ root.children := by simp [hs]
  have hrow : ∀ n ∈ root.children, n.start.row = s.stop.row →
      rowAt source n.start.byte = rowAt source s.range.stop := fun n hn hrow =>
    ((h.rows n hn).1.symm.trans hrow).trans (h.rows s hsmem).2
  have hmem {n : Node} (hn : n ∈ root.children) : n ∈ past ∨ n ∈ rest := by
    rwa [parted.nodes_eq, List.mem_append] at hn
  constructor
  case behind => exact parted.stop_le s parted.self
  case atEnd =>
    obtain ⟨z, hz, rfl, rfl | hstop⟩ := parted.atEnd
    · exact .inl rfl
    · have hzmem : z ∈ root.children := by simp [parted.nodes_eq, hz]
      exact .inr ⟨z, hzmem, (parted.comments z hz hstop).1, hstop, rfl⟩
  case comments =>
    intro n hn hstop hlt
    rcases hmem hn with hpast | hrest
    · obtain ⟨hextra, hon⟩ := parted.comments n hpast hstop
      exact ⟨hextra, slice_of_rowAt_eq (standsAt_stop (h.covers s hsmem))
        (standsAt_start (h.covers n hn)) hstop (hrow n hn hon)⟩
    · have := parted.le_start n hrest
      omega
  case next =>
    rintro n hn ⟨hextra, hon⟩
    have hhead : n ∈ rest.head? := parted.find?_eq h.full ▸ hn
    have hnmem : n ∈ root.children := by simp [parted.nodes_eq, List.mem_of_head? hhead]
    refine parted.next n hhead ⟨hextra, ?_⟩
    rw [(h.rows n hnmem).1, (h.rows s hsmem).2]
    exact hon
  case outside =>
    rintro n hn ⟨hlt, hgt⟩
    rcases hmem hn with hpast | hrest
    · have := parted.stop_le n hpast
      omega
    · have := parted.le_start n hrest
      omega

end

/-! ## The statements about a candidate -/

/-- The statements about a candidate stand behind its declaration and apart from each other, and a
literal stands between its quotes. -/
structure Assigned (source : List Char) (c : Candidate) : Prop where
  existing : ∀ x ∈ c.existing, c.range.stop ≤ x.range.start
  siblings : ∀ s ∈ c.siblings, c.range.stop ≤ s.range.start
  apart : ∀ x ∈ c.existing, ∀ s ∈ c.siblings, x.range.Apart s.range
  inOrder : c.siblings.Pairwise fun s t => s.range.stop ≤ t.range.start
  literal : ∀ x ∈ c.existing, ∀ raw range quote, x.value = .literal raw range quote →
    range.Inside x.range ∧ quote.utf8Size = 1 ∧
      slice source range = some (quote :: (raw.toList ++ [quote]))

/-- A literal is written between two quotes. -/
theorem quoted_of_literal {source : List Char} {r : Node} {raw : String} {range : Range}
    {quote : Char} (h : HasValue source r (.literal raw range quote))
    (hquoted : ∀ m ∈ r.nodes, m.kind = .string ∨ m.kind = .template → Quoted source m) :
    ∃ m ∈ r.nodes, range = m.range ∧ quote.utf8Size = 1 ∧
      slice source range = some (quote :: (raw.toList ++ [quote])) := by
  cases h with
  | @literal m _ rest hbare hstring htext hlen =>
    obtain rfl := bare_iff.mp hbare
    have hmem := unwrap_mem_nodes r
    obtain ⟨text, q, hs, hhead, hlast, hsize⟩ := hquoted _ hmem (hstring.imp_right And.left)
    rw [sourceText, hs, Option.getD_some, String.toList_ofList] at htext
    subst htext
    obtain rfl := Option.some.inj hhead
    refine ⟨_, hmem, rfl, hsize, hs.trans (congrArg some ?_)⟩
    cases rest with
    | nil =>
      rw [Text.byteLength_cons, hsize] at hlen
      exact absurd hlen (by decide)
    | cons c rest =>
      rw [List.getLast?_cons_cons] at hlast
      rw [String.toList_ofList, List.dropLast_append_getLast? _ hlast]

/-- One node does not set two properties. -/
theorem not_setsOther_of_setsName {source : List Char} {name : String} {stop : Nat} {n : Node}
    (h : SetsName source name stop n) : ¬ SetsOther source name stop n := by
  rintro ⟨property, r', hne, h'⟩
  obtain ⟨r, h⟩ := h
  have := h'.assignmentOf_eq.symm.trans h.assignmentOf_eq
  exact hne (PropertyAssignment.mk.inj (Option.some.inj this)).2.1

section

variable {source : List Char} {nodes : List Node} {c : Candidate}

theorem Attributed.siblings_range (h : Attributed source nodes c) :
    (nodes.filter fun n => SetsOther source c.name c.range.stop n).map Node.range =
      c.siblings.map Sibling.range := by
  rw [← List.forall₂_eq_eq_eq, List.forall₂_map_left_iff, List.forall₂_map_right_iff]
  exact h.siblings.imp fun _ _ h => h.1.symm

/-- A sibling is a statement about another property. -/
theorem Attributed.node_of_sibling (h : Attributed source nodes c) {s : Sibling}
    (hs : s ∈ c.siblings) :
    ∃ n ∈ nodes, SetsOther source c.name c.range.stop n ∧ n.range = s.range := by
  have hmem := List.mem_map_of_mem (f := Sibling.range) hs
  rw [← h.siblings_range] at hmem
  obtain ⟨n, hn, hr⟩ := List.mem_map.mp hmem
  obtain ⟨hn, hset⟩ := List.mem_filter.mp hn
  exact ⟨n, hn, of_decide_eq_true hset, hr⟩

theorem SetsOther.behind {name : String} {stop : Nat} {n : Node}
    (h : SetsOther source name stop n) : stop ≤ n.start.byte := by
  obtain ⟨_, _, -, h⟩ := h
  exact h.behind

theorem Arranged.assigned {root : Node} (h : Arranged source root)
    (ha : Attributed source root.children c) : Assigned source c := by
  constructor
  case existing =>
    intro x hx
    obtain ⟨_, _, _, -, -, hset, hr, -⟩ := ha.named x hx
    rw [hr]
    exact hset.behind
  case siblings =>
    intro s hs
    obtain ⟨n, -, hset, hr⟩ := ha.node_of_sibling hs
    rw [← hr]
    exact hset.behind
  case apart =>
    intro x hx s hs
    obtain ⟨_, n, r, hn, -, hset, hxr, -⟩ := ha.named x hx
    obtain ⟨m, hm, hother, hsr⟩ := ha.node_of_sibling hs
    rw [hxr, ← hsr]
    refine Node.apart_of_pairwise h.inOrder (List.mem_of_getElem? hn) hm ?_
    rintro rfl
    exact not_setsOther_of_setsName ⟨r, hset⟩ hother
  case inOrder =>
    have hpairs := h.inOrder.sublist
      (List.filter_sublist (p := fun n => decide (SetsOther source c.name c.range.stop n)))
    have hranges : ((root.children.filter fun n => SetsOther source c.name c.range.stop n).map
        Node.range).Pairwise fun a b => a.stop ≤ b.start := List.pairwise_map.mpr hpairs
    rw [ha.siblings_range] at hranges
    exact List.pairwise_map.mp hranges
  case literal =>
    intro x hx raw range quote hx'
    obtain ⟨_, n, r, hn, -, hset, hxr, hvalue, -⟩ := ha.named x hx
    obtain ⟨e, l, o, p, hassigns, -⟩ := hset.assigns
    have hn := Node.nodes_of_child (List.mem_of_getElem? hn)
    have hr := hassigns.right_mem_nodes
    rw [hx'] at hvalue
    obtain ⟨m, hm, rfl, hsize, hs⟩ := quoted_of_literal hvalue fun m hm =>
      h.quoted m (Node.nodes_trans hm (Node.nodes_trans hr hn))
    rw [hxr]
    exact ⟨Node.inside_of_mem_nodes (fun k hk => h.inside k (Node.nodes_trans hk hn))
      (Node.nodes_trans hm hr), hsize, hs⟩

end

/-! ## Candidates -/

/-- Declarations start one behind the other, or with the same statement. -/
theorem Arranged.declarations_inOrder {source : List Char} {root : Node}
    (h : Arranged source root) :
    (candidatesIn source root.children).Pairwise fun c d => c.range.start ≤ d.range.start := by
  have hstatements := h.inOrder.sublist
    (List.filter_sublist (p := fun n => n.label.named && !n.label.extra))
  have hall : ((declarationsIn source root.children).map Prod.fst).Pairwise
      fun d e => d.range.start ≤ e.range.start := by
    rw [declarationsIn_map_fst, List.pairwise_flatMap]
    constructor
    · refine fun s _ => List.pairwise_of_forall_mem_list fun d hd e he => Nat.le_of_eq ?_
      rw [(range_of_mem_declarationsOf hd).1, (range_of_mem_declarationsOf he).1]
    · refine hstatements.imp_of_mem fun {s t} hs _ hst d hd e he => ?_
      rw [(range_of_mem_declarationsOf hd).1, (range_of_mem_declarationsOf he).1]
      have hfull := h.full s (List.mem_filter.mp hs).1
      exact Nat.le_trans (Nat.le_of_lt hfull) hst
  rw [candidatesIn, List.pairwise_map]
  exact (List.pairwise_map.mp hall).sublist (firstOfEachName_sublist _)

/-- How the candidates of a file lie in it. -/
structure LaidOut (source : List Char) (nodes : List Node) (candidates : List Candidate) :
    Prop where
  /-- There is one candidate of a name. -/
  unique : candidates.Pairwise fun c d => c.name ≠ d.name
  /-- Candidates stand in the order of their declarations. -/
  inOrder : candidates.Pairwise fun c d => c.range.start ≤ d.range.start
  /-- A statement may be added behind the declaration and the comments on its last row. -/
  behind : ∀ c ∈ candidates, Behind source nodes c.range c.insertionPoint
  /-- The statements about a candidate lie behind its declaration. -/
  assigned : ∀ c ∈ candidates, Assigned source c

/-- The candidates of a tree without an error are laid out in its source, if the nodes of the tree
are. -/
theorem candidates_laid_out {source : List Char} {root : Node}
    (clean : root.label.hasError = false) (arranged : Arranged source root) :
    ∃ candidates, analyzeTree root source = .ok candidates ∧
      LaidOut source root.children candidates := by
  refine ⟨_, analyzeTree_eq clean source, candidatesIn_pairwise source root.children,
    arranged.declarations_inOrder, fun c hc => ?_,
    fun c hc => arranged.assigned (attributed_of_mem hc)⟩
  obtain ⟨front, s, following, hs, -, -, hrange, hplace⟩ := statement_of_mem hc
  rw [hrange, hplace]
  exact arranged.behind hs

theorem candidates_laid_out_sample : Tsx.fileTree.label.hasError = false ∧
    Arranged Tsx.fileText Tsx.fileTree ∧
    ∃ candidates, analyzeTree Tsx.fileTree Tsx.fileText = .ok candidates ∧
      candidates.map (fun c => (c.range.stop, c.insertionPoint)) = [(34, 38), (34, 38)] ∧
      LaidOut Tsx.fileText Tsx.fileTree.children candidates := by
  have clean : Tsx.fileTree.label.hasError = false := rfl
  have arranged : Arranged Tsx.fileText Tsx.fileTree :=
    ⟨by decide +kernel, by decide +kernel, by decide +kernel, by decide +kernel,
      by decide +kernel, by decide +kernel⟩
  obtain ⟨candidates, h, hlaid⟩ := candidates_laid_out clean arranged
  refine ⟨clean, arranged, candidates, h, ?_, hlaid⟩
  have hplaces : (analyzeTree Tsx.fileTree Tsx.fileText).toOption.map
      (fun cs => cs.map fun c => (c.range.stop, c.insertionPoint)) =
        some [(34, 38), (34, 38)] := by decide +kernel
  rw [h] at hplaces
  exact Option.some.inj hplaces

end Nameplate
