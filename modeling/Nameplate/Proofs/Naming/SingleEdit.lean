import Nameplate.Proofs.Component.Behind
import Nameplate.Proofs.Naming.Idempotent

/-!
# One edit, and the file read again

After one of the edits that name the components of a file, the file is read again. The statements
before the edit are found where they were, and those behind it are shifted, with their comments.

* `Turn`: one edit has been carried out, and the file has been read again;
* `Turn.cut`: the nodes at the top of the file before and behind the edit;
* `Turn.rows_before`, `Turn.rows_behind`: their rows;
* `Turn.insertionPoint_eq`: the place behind a declaration is where the edit moves it.
-/

namespace Nameplate.Naming

open Text (Range Edit rowAt byteLength byteLength_append)
open Text.Edit (Spliced inOrder moved shifted)
open Tsx (Node Placed forall₂_append_cons exists_of_forall₂)

/-- One of the edits that name the components of a file has been carried out, and the file has been
read again. -/
structure Turn (source source' : List Char) (root root' : Node) (label lineEnding : String)
    (e : NameEdit) : Prop where
  legible : Legible source root
  legible' : Legible source' root'
  chosen : e ∈ batch source root label lineEnding
  applied : e.toEdit.apply source = some source'
  reparsed : Reparsed [e] lineEnding source' root root'

/-! ## Nodes before and behind the edit -/

section

variable {edits before : List NameEdit} {lineEnding : String} {source' : List Char}
  {nodes nodes' : List Node}

/-- Where all edits have been seen, only old nodes are left. -/
theorem Rebuilt.forall₂ (h : Rebuilt edits lineEnding source' before [] nodes nodes') :
    List.Forall₂ (Becomes edits source') nodes nodes' := by
  generalize hafter : ([] : List NameEdit) = after at h
  induction h with
  | done => exact .nil
  | kept hn _ ih => exact .cons hn (ih hafter)
  | added => cases hafter
  | replaced => cases hafter

/-- What becomes of the nodes if one edit is left: one statement is added, or none. -/
theorem Rebuilt.last {e : NameEdit}
    (h : Rebuilt edits lineEnding source' before [e] nodes nodes') :
    (e.range.start < e.range.stop ∧ List.Forall₂ (Becomes edits source') nodes nodes') ∨
    (e.range.start = e.range.stop ∧ ∃ a b a' t b', nodes = a ++ b ∧ nodes' = a' ++ t :: b' ∧
      Adds lineEnding e (shifted (textEdits before) e.range.start) t ∧
      List.Forall₂ (Becomes edits source') a a' ∧ List.Forall₂ (Becomes edits source') b b') := by
  generalize hafter : [e] = after at h
  induction h with
  | done => cases hafter
  | kept hn _ ih =>
    rcases ih hafter with ⟨hlt, hrest⟩ | ⟨heq, a, b, a', t, b', rfl, rfl, ht, ha, hb⟩
    · exact .inl ⟨hlt, .cons hn hrest⟩
    · exact .inr ⟨heq, _ :: a, b, _ :: a', t, b', rfl, rfl, ht, .cons hn ha, hb⟩
  | added heq ht hrest =>
    cases hafter
    exact .inr ⟨heq, [], _, [], _, _, rfl, rfl, ht, .nil, hrest.forall₂⟩
  | replaced hlt hrest =>
    cases hafter
    exact .inl ⟨hlt, hrest.forall₂⟩

end

/-- A list of nodes that an edit leaves in place, one that it shifts, and between them the statement
that it rewrites or adds. -/
structure Cut (e : NameEdit) (source' : List Char) (front mid back front' : List Node) (t' : Node)
    (back' : List Node) : Prop where
  kept : List.Forall₂ (Becomes [e] source') front front'
  shifted : List.Forall₂ (Becomes [e] source') back back'
  before : ∀ n ∈ front, n.stop.byte ≤ e.range.start
  behind : ∀ n ∈ back, e.range.stop ≤ n.start.byte
  statement : t'.label.extra = false
  between : (e.range.start = e.range.stop ∧ mid = []) ∨
    ∃ t, mid = [t] ∧ t.kind = .expressionStatement ∧ t.label.extra = false

theorem textEdits_singleton (e : NameEdit) : textEdits [e] = [e.toEdit] := rfl

/-- An edit can be carried out on its own. -/
theorem exists_spliced_of_mem {source : List Char} {root : Node} {label lineEnding : String}
    {e : NameEdit} (placed : Placed source root) (he : e ∈ batch source root label lineEnding) :
    ∃ source', Spliced 0 [e.toEdit] source source' ∧ e.toEdit.apply source = some source' := by
  obtain ⟨source', hspliced⟩ := Edit.exists_spliced (List.pairwise_singleton _ e.toEdit)
    (fun f hf => by rw [List.mem_singleton.mp hf]; exact fits placed he) (f := []) rfl (by simp)
  have happly := Edit.foldrM_apply hspliced (f := []) rfl
  exact ⟨source', hspliced, by simpa using happly⟩

/-- A statement that is added has a text behind its line ending. -/
theorem lineEnding_lt_statementText (name identification lineEnding : String) :
    byteLength lineEnding.toList <
      byteLength (statementText name identification lineEnding).toList := by
  have hdot : byteLength ".".toList = 1 := by decide
  rw [Carried.toList_statementText]
  simp only [byteLength_append]
  omega

/-- The statement that an edit rewrites is no comment. -/
theorem rewritten_of_mem {source : List Char} {root : Node} {label lineEnding : String}
    {e : NameEdit} (placed : Placed source root) (he : e ∈ batch source root label lineEnding)
    (hlt : e.range.start < e.range.stop) :
    ∃ t ∈ root.children, t.label.extra = false ∧ Rewrites source e t := by
  obtain ⟨c, hc, he⟩ := (mem_batch placed).mp he
  obtain ⟨hname, ⟨-, hr, -⟩ | ⟨r, raw, quote, hx, -, -⟩⟩ := draft_cases he
  · rw [hr] at hlt
    exact absurd hlt (Nat.lt_irrefl _)
  · obtain ⟨⟨d, i⟩, -, rfl⟩ := List.mem_map.mp hc
    rw [existing_candidateOf] at hx
    obtain ⟨t, ht, hx⟩ := Option.bind_eq_some_iff.mp hx
    obtain ⟨a, ha, hx⟩ := Option.map_eq_some_iff.mp hx
    obtain ⟨hpart, m, l, o, p, r, hm, ho, hp, -⟩ := givesName_iff.mp (List.find?_some ht)
    obtain rfl := Option.some.inj ((hm.assignmentOf_eq source).symm.trans ha)
    exact ⟨t, List.mem_of_find?_eq_some ht, extra_of_part hpart, _, raw, quote, ha,
      ho.trans hname.symm, hp, (ExistingName.mk.inj hx).2⟩

namespace Turn

variable {source source' : List Char} {root root' : Node} {label lineEnding : String}
  {e : NameEdit}

theorem start_le_stop (h : Turn source source' root root' label lineEnding e) :
    e.range.start ≤ e.range.stop :=
  Text.start_le_stop_of_slice (fits h.legible.placed h.chosen)

theorem spliced (h : Turn source source' root root' label lineEnding e) :
    Spliced 0 [e.toEdit] source source' := by
  obtain ⟨between, hspliced, happly⟩ := exists_spliced_of_mem h.legible.placed h.chosen
  obtain rfl := Option.some.inj (h.applied.symm.trans happly)
  exact hspliced

theorem carried (h : Turn source source' root root' label lineEnding e) :
    Carried source source' root label lineEnding [e] where
  placed := h.legible.placed
  chosen := List.singleton_sublist.mpr h.chosen
  spliced := by
    rw [inOrder, textEdits_singleton, List.mergeSort_singleton]
    exact h.spliced

theorem rebuilt (h : Turn source source' root root' label lineEnding e) :
    Rebuilt [e] lineEnding source' [] [e] root.children root'.children := by
  have := h.reparsed.rebuilt
  rwa [inPlaces, List.mergeSort_singleton] at this

/-- A node before the edit stays where it is. -/
theorem range_before {n n' : Node} (hb : Becomes [e] source' n n')
    (hn : n.stop.byte ≤ e.range.start) : n'.range = n.range := by
  rw [hb.range_eq, textEdits_singleton, Edit.moved_before hn]

/-- A node behind the edit is shifted. -/
theorem range_behind (h : Turn source source' root root' label lineEnding e) {n n' : Node}
    (hb : Becomes [e] source' n n') (hmem : n ∈ root.children)
    (hn : e.range.stop ≤ n.start.byte) :
    n'.range = ⟨shifted [e.toEdit] n.start.byte, shifted [e.toEdit] n.stop.byte⟩ := by
  have hle := Nat.le_trans h.start_le_stop hn
  rw [hb.range_eq, textEdits_singleton]
  exact Edit.moved_behind hn (Nat.lt_of_le_of_lt hle (h.legible.full n hmem))

/-- The nodes before and behind a statement that is added. They are told apart by their order in the
new tree. -/
theorem cut_added (h : Turn source source' root root' label lineEnding e)
    (hi : e.range.start = e.range.stop) {a b a' b' : List Node} {t : Node}
    (hnodes : root.children = a ++ b) (hnodes' : root'.children = a' ++ t :: b')
    (ht : Adds lineEnding e e.range.start t) (ha : List.Forall₂ (Becomes [e] source') a a')
    (hb : List.Forall₂ (Becomes [e] source') b b') : Cut e source' a [] b a' t b' := by
  obtain ⟨hpart, hstart, -⟩ := ht
  obtain ⟨-, -, -, -, -, htext⟩ := insertion_of_mem h.legible.placed h.chosen hi
  have hlength : byteLength lineEnding.toList < byteLength e.newText.toList :=
    htext ▸ lineEnding_lt_statementText ..
  have horder := h.legible'.inOrder
  rw [hnodes'] at horder
  obtain ⟨-, hbehind, hbefore⟩ := List.pairwise_append.mp horder
  have hapart : ∀ n ∈ root.children, n.stop.byte ≤ e.range.start ∨ e.range.stop ≤ n.start.byte := by
    intro n hn
    rcases h.carried.apart_or_rewrites (List.mem_singleton_self e) hn with hap | hrw
    · exact hap.symm
    · have := (hrw.inside (h.legible.placed.child hn)).2.2.1
      omega
  refine ⟨ha, hb, fun n hn => ?_, fun n hn => ?_, extra_of_part hpart, .inl ⟨hi, rfl⟩⟩
  · have hmem : n ∈ root.children := by simp [hnodes, hn]
    obtain ⟨n', hn', hnn⟩ := exists_of_forall₂ ha hn
    have hle := hbefore n' hn' t List.mem_cons_self
    have hfull := h.legible'.full n' (by simp [hnodes', hn'])
    refine (hapart n hmem).resolve_right fun hge => ?_
    have hshift : n'.start.byte = shifted [e.toEdit] n.start.byte :=
      congrArg Range.start (h.range_behind hnn hmem hge)
    simp only [shifted, Edit.added_cons, Edit.added_nil, Edit.removed_cons, Edit.removed_nil,
      NameEdit.toEdit] at hshift
    omega
  · have hmem : n ∈ root.children := by simp [hnodes, hn]
    obtain ⟨n', hn', hnn⟩ := exists_of_forall₂ hb hn
    have hle := (List.pairwise_cons.mp hbehind).1 n' hn'
    have hfull := h.legible.full n hmem
    have htfull := h.legible'.full t (by simp [hnodes'])
    refine (hapart n hmem).resolve_left fun hlt => ?_
    have hsame : n'.start.byte = n.start.byte := congrArg Range.start (range_before hnn hlt)
    omega

/-- The nodes before and behind the statement whose literal is replaced. -/
theorem cut_rewritten (h : Turn source source' root root' label lineEnding e)
    (hlt : e.range.start < e.range.stop)
    (hall : List.Forall₂ (Becomes [e] source') root.children root'.children) :
    ∃ a t b a' t' b', root.children = a ++ t :: b ∧ root'.children = a' ++ t' :: b' ∧
      Cut e source' a [t] b a' t' b' := by
  obtain ⟨t, ht, hextra, hrw⟩ := rewritten_of_mem h.legible.placed h.chosen hlt
  obtain ⟨hin, -, -, -⟩ := hrw.inside (h.legible.placed.child ht)
  have hkind : t.kind = .expressionStatement := by
    obtain ⟨_, _, _, ha, -⟩ := hrw
    obtain ⟨_, _, _, _, _, hm, -⟩ := assignmentOf_eq_some.mp ha
    exact hm.statement
  obtain ⟨a, b, hnodes⟩ := List.append_of_mem ht
  rw [hnodes] at hall
  obtain ⟨a', t', b', hnodes', ha, htt, hb⟩ := forall₂_append_cons hall
  have horder := h.legible.inOrder
  rw [hnodes] at horder
  obtain ⟨-, hbehind, hbefore⟩ := List.pairwise_append.mp horder
  simp only [Range.Inside, Node.range] at hin
  refine ⟨a, t, b, a', t', b', hnodes, hnodes', ha, hb, fun n hn => ?_, fun n hn => ?_,
    htt.alike.extra.trans hextra, .inr ⟨t, rfl, hkind, hextra⟩⟩
  · exact Nat.le_trans (hbefore n hn t List.mem_cons_self) hin.1
  · exact Nat.le_trans hin.2 ((List.pairwise_cons.mp hbehind).1 n hn)

/-- The nodes before and behind the edit. -/
theorem cut (h : Turn source source' root root' label lineEnding e) :
    ∃ front mid back front' t' back', root.children = front ++ (mid ++ back) ∧
      root'.children = front' ++ t' :: back' ∧ Cut e source' front mid back front' t' back' := by
  rcases h.rebuilt.last with ⟨hlt, hall⟩ | ⟨hi, a, b, a', t, b', hnodes, hnodes', ht, ha, hb⟩
  · obtain ⟨a, t, b, a', t', b', hnodes, hnodes', hcut⟩ := h.cut_rewritten hlt hall
    exact ⟨a, [t], b, a', t', b', hnodes, hnodes', hcut⟩
  · exact ⟨a, [], b, a', t, b', hnodes, hnodes', h.cut_added hi hnodes hnodes' ht ha hb⟩

/-! ## Places behind declarations -/

/-- The rows of a node before the edit. -/
theorem rows_before (h : Turn source source' root root' label lineEnding e) {n n' : Node}
    (hn : n ∈ root.children) (hn' : n' ∈ root'.children) (hb : Becomes [e] source' n n')
    (hle : n.stop.byte ≤ e.range.start) :
    n'.start.row = n.start.row ∧ n'.stop.row = n.stop.row := by
  have hrange := range_before hb hle
  have hstart : n'.start.byte = n.start.byte := congrArg Range.start hrange
  have hstop : n'.stop.byte = n.stop.byte := congrArg Range.stop hrange
  obtain ⟨hat, hat'⟩ := h.legible.standsAt hn
  have hfull := h.legible.full n hn
  rw [(h.legible.rows n hn).1, (h.legible.rows n hn).2, (h.legible'.rows n' hn').1,
    (h.legible'.rows n' hn').2, hstart, hstop]
  exact ⟨Text.rowAt_before h.spliced hat (Nat.le_trans (Nat.le_of_lt hfull) hle),
    Text.rowAt_before h.spliced hat' hle⟩

/-- The rows of the nodes behind the edit change all in the same way. -/
theorem rows_behind (h : Turn source source' root root' label lineEnding e) :
    ∃ gone come, ∀ n ∈ root.children, ∀ n' ∈ root'.children, Becomes [e] source' n n' →
      e.range.stop ≤ n.start.byte →
      n'.start.row + gone = n.start.row + come ∧ n'.stop.row + gone = n.stop.row + come := by
  obtain ⟨gone, come, hrows⟩ := Text.rowAt_behind h.spliced
  refine ⟨gone, come, fun n hn n' hn' hb hle => ?_⟩
  have hrange := h.range_behind hb hn hle
  have hstart : n'.start.byte = shifted [e.toEdit] n.start.byte := congrArg Range.start hrange
  have hstop : n'.stop.byte = shifted [e.toEdit] n.stop.byte := congrArg Range.stop hrange
  obtain ⟨hat, hat'⟩ := h.legible.standsAt hn
  have hfull := h.legible.full n hn
  rw [(h.legible.rows n hn).1, (h.legible.rows n hn).2, (h.legible'.rows n' hn').1,
    (h.legible'.rows n' hn').2, hstart, hstop]
  exact ⟨hrows _ hat hle, hrows _ hat' (Nat.le_trans hle (Nat.le_of_lt hfull))⟩

/-- The place behind a statement before the edit depends only on nodes before the edit. -/
theorem insertionPoint_front (h : Turn source source' root root' label lineEnding e)
    {front mid back front' back' x y : List Node} {s t' : Node}
    (hnodes : root.children = front ++ (mid ++ back))
    (hcut : Cut e source' front mid back front' t' back') (hfront : front = x ++ s :: y)
    (hextra : s.label.extra = false) :
    insertionPoint s (y ++ (mid ++ back)) = insertionPoint s y := by
  rcases hcut.between with ⟨hi, rfl⟩ | ⟨t, rfl, -, ht⟩
  · -- The edit is at the place behind its own declaration.
    obtain ⟨c, hc, -, -, hrange, -⟩ := insertion_of_mem h.legible.placed h.chosen hi
    obtain ⟨_, d, following, hd, hpart, -, -, hpoint⟩ := statement_of_mem hc
    have hplace : insertionPoint d following = e.range.start := by
      rw [hrange, ← hpoint]
      rfl
    have hs : root.children = x ++ s :: (y ++ back) := by simp [hnodes, hfront]
    have hbefore := hcut.before s (by simp [hfront])
    have hle := h.legible.insertionPoint_mono hs hextra hd (extra_of_part hpart)
      (hplace ▸ hbefore)
    exact h.legible.insertionPoint_append hs (hplace ▸ hle) fun n hn => hi ▸ hcut.behind n hn
  · exact pastComments_append_cons ht

/-- A statement before the edit, and comments before the edit that follow it. -/
theorem insertionPoint_kept (h : Turn source source' root root' label lineEnding e)
    {s s' : Node} {y y' : List Node} (hmem : ∀ n ∈ s :: y, n ∈ root.children)
    (hmem' : ∀ n ∈ s' :: y', n ∈ root'.children)
    (hbefore : ∀ n ∈ s :: y, n.stop.byte ≤ e.range.start)
    (hss : Becomes [e] source' s s') (hy : List.Forall₂ (Becomes [e] source') y y') :
    insertionPoint s' y' = insertionPoint s y := by
  have hstop : ∀ {n n' : Node}, n ∈ s :: y → Becomes [e] source' n n' →
      n'.stop.byte = n.stop.byte := fun hn hb =>
    congrArg Range.stop (range_before hb (hbefore _ hn))
  obtain ⟨-, hsrow⟩ := h.rows_before (hmem s List.mem_cons_self) (hmem' s' List.mem_cons_self) hss
    (hbefore s List.mem_cons_self)
  rw [insertionPoint, insertionPoint, hstop List.mem_cons_self hss, hsrow]
  show pastComments s.stop.row (id s.stop.byte) y' = id _
  refine pastComments_rel hy fun n hn n' hn' hb => ?_
  have hn := List.mem_cons_of_mem s hn
  obtain ⟨hrow, -⟩ := h.rows_before (hmem n hn) (hmem' n' (List.mem_cons_of_mem _ hn')) hb
    (hbefore n hn)
  exact ⟨hb.alike.extra, by rw [hrow], hstop hn hb⟩

/-- A statement behind the edit, and comments that follow it. -/
theorem insertionPoint_shifted (h : Turn source source' root root' label lineEnding e)
    {s s' : Node} {y y' : List Node} (hmem : ∀ n ∈ s :: y, n ∈ root.children)
    (hmem' : ∀ n ∈ s' :: y', n ∈ root'.children)
    (hbehind : ∀ n ∈ s :: y, e.range.stop ≤ n.start.byte)
    (hss : Becomes [e] source' s s') (hy : List.Forall₂ (Becomes [e] source') y y') :
    insertionPoint s' y' = shifted [e.toEdit] (insertionPoint s y) := by
  obtain ⟨gone, come, hrows⟩ := h.rows_behind
  have hstop : ∀ {n n' : Node}, n ∈ s :: y → Becomes [e] source' n n' →
      n'.stop.byte = shifted [e.toEdit] n.stop.byte := fun hn hb =>
    congrArg Range.stop (h.range_behind hb (hmem _ hn) (hbehind _ hn))
  obtain ⟨-, hsrow⟩ := hrows s (hmem s List.mem_cons_self) s' (hmem' s' List.mem_cons_self) hss
    (hbehind s List.mem_cons_self)
  rw [insertionPoint, insertionPoint, hstop List.mem_cons_self hss]
  refine pastComments_rel hy fun n hn n' hn' hb => ?_
  have hn := List.mem_cons_of_mem s hn
  obtain ⟨hrow, -⟩ := hrows n (hmem n hn) n' (hmem' n' (List.mem_cons_of_mem _ hn')) hb
    (hbehind n hn)
  exact ⟨hb.alike.extra, by omega, hstop hn hb⟩

/-- The place behind a declaration before the edit stays where it is. -/
theorem insertionPoint_before (h : Turn source source' root root' label lineEnding e)
    {front mid back front' back' x y x' y' : List Node} {s s' t' : Node}
    (hnodes : root.children = front ++ (mid ++ back))
    (hnodes' : root'.children = front' ++ t' :: back')
    (hcut : Cut e source' front mid back front' t' back') (hs : root.children = x ++ s :: y)
    (hs' : root'.children = x' ++ s' :: y') (hextra : s.label.extra = false)
    (hrange : s'.range = moved [e.toEdit] s.range) (hmem : s ∈ front) :
    Range.empty (insertionPoint s' y') = moved [e.toEdit] (.empty (insertionPoint s y)) := by
  obtain ⟨u, v, hfront⟩ := List.append_of_mem hmem
  obtain ⟨u', n', v', hfront', -, hb, hv⟩ := forall₂_append_cons (hfront ▸ hcut.kept)
  have hu : root.children = u ++ s :: (v ++ (mid ++ back)) := by simp [hnodes, hfront]
  have hu' : root'.children = u' ++ n' :: (v' ++ t' :: back') := by simp [hnodes', hfront']
  obtain ⟨-, -, rfl⟩ := h.legible.split_eq hs hu rfl
  obtain ⟨-, rfl, rfl⟩ := h.legible'.split_eq hs' hu' (hrange.trans hb.range_eq.symm)
  have hbefore : ∀ n ∈ s :: v, n ∈ root.children ∧ n.stop.byte ≤ e.range.start := fun n hn => by
    have hn : n ∈ front := by rw [hfront]; exact List.mem_append_right _ hn
    exact ⟨by simp [hnodes, hn], hcut.before n hn⟩
  have hmem' : ∀ n ∈ s' :: v', n ∈ root'.children := fun n hn => by
    rw [hnodes', hfront']
    exact List.mem_append_left _ (List.mem_append_right _ hn)
  have hkept := h.insertionPoint_kept (fun n hn => (hbefore n hn).1) hmem'
    (fun n hn => (hbefore n hn).2) hb hv
  have hle : insertionPoint s v ≤ e.range.start := by
    obtain ⟨m, hm, heq⟩ := insertionPoint_cases s v
    rw [heq]
    exact (hbefore m hm).2
  have hlater : insertionPoint s' (v' ++ t' :: back') = insertionPoint s' v' :=
    pastComments_append_cons hcut.statement
  rw [h.insertionPoint_front hnodes hcut hfront hextra, Edit.moved_before hle, hlater, hkept]

/-- The place behind a declaration behind the edit is shifted. -/
theorem insertionPoint_behind (h : Turn source source' root root' label lineEnding e)
    {front mid back front' back' x y x' y' : List Node} {s s' t' : Node}
    (hnodes : root.children = front ++ (mid ++ back))
    (hnodes' : root'.children = front' ++ t' :: back')
    (hcut : Cut e source' front mid back front' t' back') (hs : root.children = x ++ s :: y)
    (hs' : root'.children = x' ++ s' :: y')
    (hrange : s'.range = moved [e.toEdit] s.range) (hmem : s ∈ back) :
    Range.empty (insertionPoint s' y') = moved [e.toEdit] (.empty (insertionPoint s y)) := by
  obtain ⟨u, v, rfl⟩ := List.append_of_mem hmem
  obtain ⟨u', n', v', rfl, -, hb, hv⟩ := forall₂_append_cons hcut.shifted
  have hu : root.children = (front ++ (mid ++ u)) ++ s :: v := by simp [hnodes]
  have hu' : root'.children = (front' ++ t' :: u') ++ n' :: v' := by simp [hnodes']
  obtain ⟨-, -, rfl⟩ := h.legible.split_eq hs hu rfl
  obtain ⟨-, rfl, rfl⟩ := h.legible'.split_eq hs' hu' (hrange.trans hb.range_eq.symm)
  have hbehind : ∀ n ∈ s :: y, e.range.stop ≤ n.start.byte := fun n hn =>
    hcut.behind n (List.mem_append_right _ hn)
  have hshift := h.insertionPoint_shifted
    (fun n hn => by rw [hs]; exact List.mem_append_right _ hn)
    (fun n hn => by rw [hs']; exact List.mem_append_right _ hn) hbehind hb hv
  have hplace : e.range.stop < insertionPoint s y :=
    Nat.lt_of_le_of_lt (hbehind s List.mem_cons_self) (Nat.lt_of_lt_of_le
      (h.legible.full s (by simp [hs])) (stop_le_insertionPoint h.legible.placed hs))
  rw [hshift, Edit.moved_behind (Nat.le_of_lt hplace) (Nat.lt_of_le_of_lt h.start_le_stop hplace)]
  rfl

/-- The place behind a declaration is where the edit moves it. -/
theorem insertionPoint_eq (h : Turn source source' root root' label lineEnding e)
    {x y x' y' : List Node} {s s' : Node} (hs : root.children = x ++ s :: y)
    (hs' : root'.children = x' ++ s' :: y') (hk : s.kind ≠ .expressionStatement)
    (hextra : s.label.extra = false) (hrange : s'.range = moved [e.toEdit] s.range) :
    Range.empty (insertionPoint s' y') = moved [e.toEdit] (.empty (insertionPoint s y)) := by
  obtain ⟨front, mid, back, front', t', back', hnodes, hnodes', hcut⟩ := h.cut
  have hmem : s ∈ front ++ (mid ++ back) := by simp [← hnodes, hs]
  rcases List.mem_append.mp hmem with hmem | hmem
  · exact h.insertionPoint_before hnodes hnodes' hcut hs hs' hextra hrange hmem
  rcases List.mem_append.mp hmem with hmem | hmem
  · -- The statement that is rewritten declares nothing.
    rcases hcut.between with ⟨-, rfl⟩ | ⟨t, rfl, ht, -⟩
    · cases hmem
    · obtain rfl := List.mem_singleton.mp hmem
      exact absurd ht hk
  · exact h.insertionPoint_behind hnodes hnodes' hcut hs hs' hrange hmem

end Turn

end Nameplate.Naming
