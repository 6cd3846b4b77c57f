import Nameplate.Proofs.Component.Found
import Nameplate.Proofs.Text.FirstEdit

/-!
# The place behind a declaration

A statement about a component may follow behind its declaration and the comments on its last row.
Which place that is depends only on the nodes up to the next statement.

* `Legible`: what a parser promises about the rows of a file, and that nothing at its top is empty;
* `pastComments_append_cons`, `pastComments_append`: where the comments end that are passed;
* `pastComments_rel`: nodes at other offsets and rows lead to the place that corresponds;
* `Legible.insertionPoint_mono`, `Legible.insertionPoint_append`: places keep the order of the
  statements, and nodes behind a place do not matter for it;
* `Legible.range_eq_of_insertionPoint`: the places behind different statements are different.
-/

namespace Nameplate

open Text (Range StandsAt rowAt slice_eq_some byteLength)
open Tsx (Node Placed)

/-- A tree whose nodes are placed as a parser places them. Those at the top are not empty, and their
rows are the numbers of line feeds before them. -/
structure Legible (source : List Char) (root : Node) : Prop where
  placed : Placed source root
  full : ∀ n ∈ root.children, n.start.byte < n.stop.byte
  rows : ∀ n ∈ root.children,
    n.start.row = rowAt source n.start.byte ∧ n.stop.row = rowAt source n.stop.byte

instance (source : List Char) (root : Node) : Decidable (Legible source root) :=
  decidable_of_iff (Placed source root ∧ (∀ n ∈ root.children, n.start.byte < n.stop.byte) ∧
      ∀ n ∈ root.children,
        n.start.row = rowAt source n.start.byte ∧ n.stop.row = rowAt source n.stop.byte)
    ⟨fun h => ⟨h.1, h.2.1, h.2.2⟩, fun h => ⟨h.placed, h.full, h.rows⟩⟩

theorem extra_of_part {n : Node} (h : (n.label.named && !n.label.extra) = true) :
    n.label.extra = false := by
  simpa using (Bool.and_eq_true_iff.mp h).2

/-! ## Comments -/

section

variable {row stop : Nat} {front back : List Node}

/-- Comments are passed up to the next node that is none. -/
theorem pastComments_append_cons {t : Node} (ht : t.label.extra = false) :
    pastComments row stop (front ++ t :: back) = pastComments row stop front := by
  induction front generalizing stop with
  | nil => simp [pastComments, ht]
  | cons n front ih =>
    rw [List.cons_append, pastComments, pastComments]
    split
    · exact ih
    · rfl

/-- Comments that stop behind an offset are not passed to get there. -/
theorem pastComments_append {offset : Nat} (h : pastComments row stop (front ++ back) ≤ offset)
    (hstop : back.Pairwise fun a b => a.stop.byte ≤ b.stop.byte)
    (hback : ∀ n ∈ back, offset < n.stop.byte) :
    pastComments row stop (front ++ back) = pastComments row stop front := by
  induction front generalizing stop with
  | nil =>
    cases back with
    | nil => rfl
    | cons n back =>
      rw [List.nil_append, pastComments] at h ⊢
      split
      · rename_i hn
        rw [if_pos hn] at h
        have hlt := hback n List.mem_cons_self
        have hle : n.stop.byte ≤ pastComments row n.stop.byte back := by
          rcases pastComments_cases row n.stop.byte back with heq | ⟨m, hm, heq⟩
          · exact Nat.le_of_eq heq.symm
          · rw [heq]
            exact (List.pairwise_cons.mp hstop).1 m hm
        omega
      · rfl
  | cons n front ih =>
    rw [List.cons_append, pastComments, pastComments]
    rw [List.cons_append, pastComments] at h
    split
    · rename_i hn
      rw [if_pos hn] at h
      exact ih h
    · rfl

/-- Nodes at other offsets and rows. -/
theorem pastComments_rel {R : Node → Node → Prop} {place : Nat → Nat} {row' : Nat}
    {nodes nodes' : List Node} (h : List.Forall₂ R nodes nodes')
    (hR : ∀ n ∈ nodes, ∀ n' ∈ nodes', R n n' → n'.label.extra = n.label.extra ∧
      (n'.start.row = row' ↔ n.start.row = row) ∧ n'.stop.byte = place n.stop.byte) :
    pastComments row' (place stop) nodes' = place (pastComments row stop nodes) := by
  induction h generalizing stop with
  | nil => rfl
  | @cons n n' nodes nodes' hn _ ih =>
    obtain ⟨hextra, hrow, hstop⟩ := hR n List.mem_cons_self n' List.mem_cons_self hn
    have hsame : (n'.label.extra && n'.start.row == row') =
        (n.label.extra && n.start.row == row) := by
      rw [hextra, Bool.beq_eq_decide_eq, Bool.beq_eq_decide_eq, decide_eq_decide.mpr hrow]
    rw [pastComments, pastComments, hsame, hstop]
    split
    · exact ih fun m hm m' hm' => hR m (List.mem_cons_of_mem _ hm) m' (List.mem_cons_of_mem _ hm')
    · rfl

end

/-! ## Places -/

namespace Legible

variable {source : List Char} {root : Node}

theorem inOrder (h : Legible source root) :
    root.children.Pairwise fun a b => a.stop.byte ≤ b.start.byte :=
  h.placed.inOrder root root.self_mem_nodes

/-- A node starts and stops between two characters. -/
theorem standsAt (h : Legible source root) {n : Node} (hn : n ∈ root.children) :
    StandsAt source n.start.byte [] ∧ StandsAt source n.stop.byte [] := by
  obtain ⟨part, hp⟩ := Option.isSome_iff_exists.mp (h.placed.covers n (Node.nodes_of_child hn))
  obtain ⟨hat, hstop⟩ := slice_eq_some.mp hp
  have hat : StandsAt source n.start.byte part := hat
  have hstop : n.stop.byte = n.start.byte + byteLength part := hstop
  rw [hstop]
  exact ⟨StandsAt.left (a := []) hat, StandsAt.right (b := []) (by simpa using hat)⟩

/-- A node at the top of a file is known by its range, and with it the nodes before and behind. -/
theorem split_eq (h : Legible source root) {front back front' back' : List Node} {s t : Node}
    (hs : root.children = front ++ s :: back) (ht : root.children = front' ++ t :: back')
    (hrange : s.range = t.range) : front = front' ∧ s = t ∧ back = back' := by
  have hstart : s.start.byte = t.start.byte := congrArg Range.start hrange
  have hcut : ∀ {front back : List Node} {t : Node}, root.children = front ++ t :: back →
      s.start.byte = t.start.byte →
      (∀ n ∈ front, decide (n.stop.byte ≤ s.start.byte) = true) ∧
        ∀ n ∈ t :: back, decide (n.stop.byte ≤ s.start.byte) = false := by
    intro front back t ht heq
    have horder := h.inOrder
    have hfull := h.full
    rw [ht] at horder hfull
    obtain ⟨-, hback, hfront⟩ := List.pairwise_append.mp horder
    have htfull := hfull t (by simp)
    refine ⟨fun n hn => ?_, fun n hn => ?_⟩
    · have := hfront n hn t List.mem_cons_self
      simpa [heq] using this
    · have hn' := hfull n (List.mem_append_right _ hn)
      simp only [decide_eq_false_iff_not]
      rcases List.mem_cons.mp hn with rfl | hn
      · omega
      · have := (List.pairwise_cons.mp hback).1 n hn
        omega
  obtain ⟨hsf, hsb⟩ := hcut hs rfl
  obtain ⟨htf, htb⟩ := hcut ht hstart
  obtain ⟨hfront, hcons⟩ := Text.append_inj_of_filter (hs.symm.trans ht) hsf hsb htf htb
  exact ⟨hfront, List.cons.inj hcons⟩

/-- What starts behind a statement is among the nodes behind it. -/
theorem mem_following (h : Legible source root) {front following : List Node} {s t : Node}
    (hs : root.children = front ++ s :: following) (ht : t ∈ root.children)
    (hle : s.stop.byte ≤ t.start.byte) : t ∈ following := by
  have horder := h.inOrder
  have hsfull := h.full s (by simp [hs])
  have htfull := h.full t ht
  rw [hs] at horder ht
  rcases List.mem_append.mp ht with ht | ht
  · have := (List.pairwise_append.mp horder).2.2 t ht s List.mem_cons_self
    omega
  · rcases List.mem_cons.mp ht with rfl | ht
    · omega
    · exact ht

/-- The place behind a statement is not behind the start of a later one. -/
theorem insertionPoint_le (h : Legible source root) {front following : List Node} {s t : Node}
    (hs : root.children = front ++ s :: following) (ht : t ∈ root.children)
    (hextra : t.label.extra = false) (hle : s.stop.byte ≤ t.start.byte) :
    insertionPoint s following ≤ t.start.byte := by
  obtain ⟨mid, back, rfl⟩ := List.append_of_mem (h.mem_following hs ht hle)
  have horder := h.inOrder
  rw [hs] at horder
  have hmid := (List.pairwise_cons.mp (List.pairwise_append.mp horder).2.1).2
  rw [insertionPoint, pastComments_append_cons hextra]
  rcases pastComments_cases s.stop.row s.stop.byte mid with heq | ⟨m, hm, heq⟩
  · rw [heq]
    exact hle
  · rw [heq]
    exact (List.pairwise_append.mp hmid).2.2 m hm t List.mem_cons_self

/-- A statement that stops before the place behind another one has its own place before that place
too, or at it. -/
theorem insertionPoint_mono (h : Legible source root) {x y u v : List Node} {s d : Node}
    (hs : root.children = x ++ s :: y) (hextra : s.label.extra = false)
    (hd : root.children = u ++ d :: v) (hextra' : d.label.extra = false)
    (hle : s.stop.byte ≤ insertionPoint d v) : insertionPoint s y ≤ insertionPoint d v := by
  have hsmem : s ∈ root.children := by simp [hs]
  have hdmem : d ∈ root.children := by simp [hd]
  by_cases hsd : s = d
  · subst hsd
    obtain ⟨-, -, rfl⟩ := h.split_eq hs hd rfl
    exact Nat.le_refl _
  rcases h.placed.apart hsmem hdmem hsd with hbefore | hbehind
  · have hpoint := h.insertionPoint_le hs hdmem hextra' hbefore
    have hstop := stop_le_insertionPoint h.placed hd
    have hfull := h.full d hdmem
    omega
  · -- No statement stands between another one and the place behind it.
    have hpoint := h.insertionPoint_le hd hsmem hextra hbehind
    have hfull := h.full s hsmem
    omega

/-- Nodes behind an offset do not matter for a place before it. -/
theorem insertionPoint_append (h : Legible source root) {x y back : List Node} {s : Node}
    (hs : root.children = x ++ s :: (y ++ back)) {offset : Nat}
    (hle : insertionPoint s (y ++ back) ≤ offset) (hback : ∀ n ∈ back, offset ≤ n.start.byte) :
    insertionPoint s (y ++ back) = insertionPoint s y := by
  have hfull : ∀ n ∈ back, n.start.byte < n.stop.byte := fun n hn => h.full n (by simp [hs, hn])
  have horder := h.inOrder
  rw [hs] at horder
  have horder := (List.pairwise_cons.mp (List.pairwise_append.mp horder).2.1).2
  refine pastComments_append hle ?_ fun n hn => ?_
  · refine (List.pairwise_append.mp horder).2.1.imp_of_mem fun {m n} _ hn hmn => ?_
    exact Nat.le_trans hmn (Nat.le_of_lt (hfull n hn))
  · exact Nat.lt_of_le_of_lt (hback n hn) (hfull n hn)

/-- Behind different statements a statement may follow at different places. -/
theorem range_eq_of_insertionPoint (h : Legible source root) {c d : Candidate}
    (hc : c ∈ candidatesIn source root.children) (hd : d ∈ candidatesIn source root.children)
    (heq : c.insertionPoint = d.insertionPoint) : c.range = d.range := by
  obtain ⟨_, s, following, hs, hspart, -, hsrange, hspoint⟩ := statement_of_mem hc
  obtain ⟨_, t, following', ht, htpart, -, htrange, htpoint⟩ := statement_of_mem hd
  have hsmem : s ∈ root.children := by simp [hs]
  have htmem : t ∈ root.children := by simp [ht]
  by_cases hst : s = t
  · rw [hsrange, htrange, hst]
  have hstop := stop_le_insertionPoint h.placed hs
  have hstop' := stop_le_insertionPoint h.placed ht
  have hfull := h.full s hsmem
  have hfull' := h.full t htmem
  rcases h.placed.apart hsmem htmem hst with hle | hle
  · have := h.insertionPoint_le hs htmem (extra_of_part htpart) hle
    omega
  · have := h.insertionPoint_le ht hsmem (extra_of_part hspart) hle
    omega

end Legible

end Nameplate
