import Nameplate.Naming.Plan
import Nameplate.Proofs.Component.Found

/-!
# All edits of a file at once

The edits that name the components of a file keep out of each other's way and touch nothing but the
literals they replace.

* `Rewrites`: an edit replaces the literal of a statement;
* `apart_or_rewrites`: an edit keeps away from every node at the top of the file, but for the
  statement whose literal it replaces;
* `plan_eq_draft`: no edit is held back for the sake of another assignment;
* `batch`: all edits of a file;
* `separate_batch`, `exists_spliced_batch`: they can be carried out side by side;
* `Carried`: some of them have been carried out, and what that does to a statement;
* `Named`: all of them have been carried out.
-/

namespace Nameplate.Naming

open Text (Range Edit slice slice_eq_some slice_empty_of_slice start_le_stop_of_slice)
open Text.Edit (Separate Respects Spliced inOrder moved within)
open Tsx (Node Placed Stacked sampleText sampleTree)

/-! ## One edit -/

/-- An edit replaces the literal that a statement assigns to the display name of its component. -/
def Rewrites (source : List Char) (e : NameEdit) (n : Node) : Prop :=
  ∃ a raw quote, assignmentOf source n = some a ∧ a.object = e.name ∧
    a.property = displayNameProperty ∧ a.value = .literal raw e.range quote

/-- A statement is rewritten by the edit of its own component only. -/
theorem Rewrites.name_eq {source : List Char} {d e : NameEdit} {n : Node}
    (hd : Rewrites source d n) (he : Rewrites source e n) : d.name = e.name := by
  obtain ⟨a, _, _, ha, hda, -, -⟩ := hd
  obtain ⟨b, _, _, hb, heb, -, -⟩ := he
  obtain rfl := Option.some.inj (ha.symm.trans hb)
  exact hda.symm.trans heb

/-- The literal that is replaced lies in its statement. -/
theorem Rewrites.range_inside {source : List Char} {e : NameEdit} {n : Node}
    (h : Rewrites source e n) (hn : ∀ m ∈ n.nodes, ∀ c ∈ m.children, c.range.Inside m.range) :
    e.range.Inside n.range := by
  obtain ⟨a, raw, quote, ha, -, -, hval⟩ := h
  obtain ⟨m, l, o, p, r, hm, rfl⟩ := assignmentOf_eq_some.mp ha
  obtain ⟨-, hrange, -⟩ := valueOfRight_eq_literal.mp hval
  rw [hrange]
  exact Node.inside_of_mem_nodes hn (Node.nodes_trans (unwrap_mem_nodes r) hm.right_mem_nodes)

/-- The literal that is replaced lies in its statement, behind the name of the component. -/
theorem Rewrites.inside {source : List Char} {e : NameEdit} {n : Node} (h : Rewrites source e n)
    (hn : Placed source n) :
    e.range.Inside n.range ∧ n.start.byte < e.range.start ∧ e.range.start < e.range.stop ∧
      (slice source e.range).isSome := by
  refine ⟨h.range_inside hn.inside, ?_⟩
  obtain ⟨a, raw, quote, ha, -, hprop, hval⟩ := h
  obtain ⟨m, l, o, p, r, hm, rfl⟩ := assignmentOf_eq_some.mp ha
  obtain ⟨-, hrange, rest, hs, hlen, -⟩ := valueOfRight_eq_literal.mp hval
  obtain ⟨-, -, -, -, hlr⟩ := hm.places hn
  have hu : e.range.Inside r.range := by
    rw [hrange]
    exact (hn.of_mem hm.right_mem_nodes).inside_root (unwrap_mem_nodes r)
  have hroom := hm.room hn hprop
  have hstop := (slice_eq_some.mp hs).2
  refine ⟨?_, by omega, by rw [hs]; rfl⟩
  simp only [Range.Inside, Node.range] at hu
  omega

theorem draft_cases {c : Candidate} {identification lineEnding : String} {e : NameEdit}
    (h : (draft c identification lineEnding).edit? = some e) :
    e.name = c.name ∧
    ((c.existing = none ∧ e.range = .empty c.insertionPoint ∧
        e.newText = statementText c.name identification lineEnding) ∨
      ∃ r raw quote, c.existing = some ⟨r, .literal raw e.range quote⟩ ∧
        raw ≠ escapeString quote identification ∧
        e.newText = quote.toString ++ escapeString quote identification ++ quote.toString) := by
  unfold draft at h
  split at h
  · rename_i hx
    obtain rfl := Option.some.inj h
    exact ⟨rfl, .inl ⟨hx, rfl, rfl⟩⟩
  · cases h
  · rename_i r raw range quote hx
    dsimp only at h
    split at h <;> [cases h; skip]
    rename_i hne
    obtain rfl := Option.some.inj h
    exact ⟨rfl, .inr ⟨r, raw, quote, hx, hne, rfl⟩⟩

section

variable {source : List Char} {root : Node} {c : Candidate} {e : NameEdit}
  {identification lineEnding : String}

/-- The place behind a declaration is the end of a node at the top of the file. -/
theorem insertionPoint_of_mem (hc : c ∈ candidatesIn source root.children) :
    ∃ m ∈ root.children, c.insertionPoint = m.stop.byte := by
  obtain ⟨front, s, following, hs, -, -, hi⟩ := declared_of_mem hc
  obtain ⟨m, hm, he⟩ := insertionPoint_cases s following
  exact ⟨m, by rw [hs]; exact List.mem_append_right _ hm, hi.trans he⟩

/-- The statement whose literal is replaced. -/
theorem rewrites_of_literal (hc : c ∈ candidatesIn source root.children) {r : Range} {raw : String}
    {quote : Char} (hx : c.existing = some ⟨r, .literal raw e.range quote⟩)
    (hn : e.name = c.name) : ∃ t ∈ root.children, Rewrites source e t := by
  obtain ⟨t, ht, a, ha, ho, hp, h⟩ := assigned_of_existing hc hx
  exact ⟨t, ht, a, raw, quote, ha, ho.trans hn.symm, hp, (ExistingName.mk.inj h).2.symm⟩

/-- An edit keeps away from every node at the top of a file, but for the statement whose literal it
replaces. -/
theorem draft_apart_or_rewrites (stacked : Stacked root)
    (hc : c ∈ candidatesIn source root.children)
    (he : (draft c identification lineEnding).edit? = some e) {n : Node} (hn : n ∈ root.children) :
    e.range.Apart n.range ∨ Rewrites source e n := by
  obtain ⟨hname, ⟨-, hr, -⟩ | ⟨r, raw, quote, hx, -, -⟩⟩ := draft_cases he
  · left
    obtain ⟨m, hm, hi⟩ := insertionPoint_of_mem hc
    rw [hr, hi]
    by_cases hmn : m = n
    · subst hmn
      exact .inr (Nat.le_refl _)
    · rcases Node.apart_of_pairwise stacked.inOrder hm hn hmn with h | h
      · exact .inl h
      · exact .inr (Nat.le_trans h (stacked.forward m hm))
  · obtain ⟨t, ht, hrw⟩ := rewrites_of_literal hc hx hname
    by_cases htn : t = n
    · exact .inr (htn ▸ hrw)
    · have hin := hrw.range_inside fun m hm =>
        stacked.inside m (Node.nodes_trans hm (Node.nodes_of_child ht))
      have hap := Node.apart_of_pairwise stacked.inOrder ht hn htn
      left
      unfold Range.Apart Range.Inside at *
      omega

theorem draft_fits (placed : Placed source root) (hc : c ∈ candidatesIn source root.children)
    (he : (draft c identification lineEnding).edit? = some e) :
    (slice source e.range).isSome := by
  obtain ⟨hname, ⟨-, hr, -⟩ | ⟨r, raw, quote, hx, -, -⟩⟩ := draft_cases he
  · obtain ⟨m, hm, hi⟩ := insertionPoint_of_mem hc
    rw [hr, hi]
    exact slice_empty_of_slice (placed.covers m (Node.nodes_of_child hm))
  · obtain ⟨t, ht, hrw⟩ := rewrites_of_literal hc hx hname
    exact (hrw.inside (placed.child ht)).2.2.2

theorem touches_eq_false {r : Range} {s : Sibling} (h : r.Apart s.range) (hr : r.start ≤ r.stop) :
    touches r s = false := by
  unfold Range.Apart at h
  simp only [touches, Range.overlaps, Range.contains, Bool.or_eq_false_iff, Bool.and_eq_false_iff,
    decide_eq_false_iff_not]
  omega

/-- An edit does not stop before it starts. -/
theorem draft_forward (hc : c ∈ candidatesIn source root.children)
    (he : (draft c identification lineEnding).edit? = some e) : e.range.start ≤ e.range.stop := by
  obtain ⟨hname, ⟨-, hr, -⟩ | ⟨r, raw, quote, hx, -, -⟩⟩ := draft_cases he
  · rw [hr]
    exact Nat.le_refl _
  · obtain ⟨t, -, a, _, _, ha, -, -, hval⟩ := rewrites_of_literal hc hx hname
    obtain ⟨m, l, o, p, r, -, rfl⟩ := assignmentOf_eq_some.mp ha
    obtain ⟨-, -, rest, hs, -⟩ := valueOfRight_eq_literal.mp hval
    exact start_le_stop_of_slice (by rw [hs]; rfl)

/-- No edit touches an assignment to another property. -/
theorem draft_touches (stacked : Stacked root) (hc : c ∈ candidatesIn source root.children)
    (he : (draft c identification lineEnding).edit? = some e) {s : Sibling} (hs : s ∈ c.siblings) :
    touches e.range s = false := by
  obtain ⟨t, ht, a, ha, hp, hr⟩ := assigned_of_sibling hc hs
  rcases draft_apart_or_rewrites stacked hc he ht with h | ⟨b, raw, quote, hb, -, hb', -⟩
  · exact touches_eq_false (hr ▸ h) (draft_forward hc he)
  · obtain rfl := Option.some.inj (ha.symm.trans hb)
    exact absurd hb' hp

/-- No edit is held back for the sake of an assignment to another property. -/
theorem plan_eq_draft (stacked : Stacked root) (hc : c ∈ candidatesIn source root.children)
    (identification lineEnding : String) :
    plan c identification lineEnding = draft c identification lineEnding := by
  cases he : (draft c identification lineEnding).edit? with
  | none => simp only [plan, he]
  | some e =>
    have hnone : c.siblings.any (touches e.range) = false :=
      List.any_eq_false.mpr fun s hs => by simp [draft_touches stacked hc he hs]
    simp only [plan, he, hnone, Bool.false_eq_true, if_false]

end

/-! ## The whole batch -/

/-- A list in which only one member has a property, as members of one kind are unique. -/
theorem filter_eq_singleton {α β : Type} {kind : α → β} {p : α → Bool} {l : List α} {a : α}
    (hl : l.Pairwise fun b c => kind b ≠ kind c) (ha : a ∈ l) (hp : p a = true)
    (hother : ∀ b ∈ l, kind b ≠ kind a → p b = false) : l.filter p = [a] := by
  obtain ⟨front, back, rfl⟩ := List.append_of_mem ha
  obtain ⟨-, hback, hfront⟩ := List.pairwise_append.mp hl
  have h1 : front.filter p = [] := List.filter_eq_nil_iff.mpr fun b hb => by
    simp [hother b (by simp [hb]) (hfront b hb a List.mem_cons_self)]
  have h2 : back.filter p = [] := List.filter_eq_nil_iff.mpr fun b hb => by
    simp [hother b (by simp [hb]) fun h => (List.pairwise_cons.mp hback).1 b hb h.symm]
  simp [h1, h2, hp]

/-- The edits of a text that name its components. -/
def textEdits (edits : List NameEdit) : List Edit := edits.map NameEdit.toEdit

/-- In a range that one edit enters and the others keep away from there is that edit only. -/
theorem within_singleton {edits : List NameEdit} {e : NameEdit}
    (hp : edits.Pairwise fun d e => d.name ≠ e.name) (he : e ∈ edits) {r : Range}
    (hin : e.range.Inside r) (hpos : e.range.start < e.range.stop)
    (hother : ∀ d ∈ edits, d.name ≠ e.name → d.range.Apart r) :
    within (inOrder (textEdits edits)) r = [e.toEdit] := by
  have hone : edits.filter (fun d => Edit.enters r d.toEdit) = [e] :=
    filter_eq_singleton hp he (Edit.enters_of_inside hin hpos) fun d hd hne =>
      Edit.enters_of_apart (hother d hd hne)
  have hperm := (Edit.inOrder_perm (textEdits edits)).filter (Edit.enters r)
  rw [textEdits, List.filter_map, show List.filter (Edit.enters r ∘ NameEdit.toEdit) _ = [e]
    from hone] at hperm
  exact List.perm_singleton.mp hperm

/-- The edits that name the components of a file. -/
def batch (source : List Char) (root : Node) (label lineEnding : String) : List NameEdit :=
  editsFor (candidatesIn source root.children) label lineEnding

section

variable {source : List Char} {root : Node} {label lineEnding : String} {e : NameEdit}

theorem mem_batch (placed : Placed source root) :
    e ∈ batch source root label lineEnding ↔
      ∃ c ∈ candidatesIn source root.children,
        (draft c (displayName c.name label) lineEnding).edit? = some e := by
  rw [batch, editsFor, List.mem_filterMap]
  refine exists_congr fun c => and_congr_right fun hc => ?_
  rw [planFor, plan_eq_draft placed.stacked hc]

theorem apart_or_rewrites (placed : Placed source root)
    (he : e ∈ batch source root label lineEnding) {n : Node} (hn : n ∈ root.children) :
    e.range.Apart n.range ∨ Rewrites source e n := by
  obtain ⟨c, hc, he⟩ := (mem_batch placed).mp he
  exact draft_apart_or_rewrites placed.stacked hc he hn

theorem fits (placed : Placed source root)
    (he : e ∈ batch source root label lineEnding) :
    (slice source e.range).isSome := by
  obtain ⟨c, hc, he⟩ := (mem_batch placed).mp he
  exact draft_fits placed hc he

/-- An edit inserts behind a declaration or rewrites a statement. -/
theorem inserts_or_rewrites (placed : Placed source root)
    (he : e ∈ batch source root label lineEnding) :
    e.range.start = e.range.stop ∨ ∃ t ∈ root.children, Rewrites source e t := by
  obtain ⟨c, hc, he⟩ := (mem_batch placed).mp he
  obtain ⟨hname, ⟨-, hr, -⟩ | ⟨r, raw, quote, hx, -, -⟩⟩ := draft_cases he
  · exact .inl (by rw [hr]; rfl)
  · exact .inr (rewrites_of_literal hc hx hname)

/-- Each component is named once. -/
theorem batch_pairwise (placed : Placed source root) (label lineEnding : String) :
    (batch source root label lineEnding).Pairwise fun d e => d.name ≠ e.name := by
  rw [batch, editsFor, List.pairwise_filterMap]
  refine (candidatesIn_pairwise source root.children).imp_of_mem
    fun {c d} hc hd hne e he f hf => ?_
  rw [planFor, plan_eq_draft placed.stacked hc] at he
  rw [planFor, plan_eq_draft placed.stacked hd] at hf
  rw [(draft_cases he).1, (draft_cases hf).1]
  exact hne

theorem batch_unique (placed : Placed source root) {d e : NameEdit}
    (hd : d ∈ batch source root label lineEnding) (he : e ∈ batch source root label lineEnding)
    (h : d.name = e.name) : d = e :=
  List.inj_on_of_nodup_map (List.pairwise_map.mpr (batch_pairwise placed label lineEnding)) hd he h

/-- Two edits of one batch keep apart, and start at one place only if both insert there. -/
theorem batch_apart (placed : Placed source root) {d e : NameEdit}
    (hd : d ∈ batch source root label lineEnding) (he : e ∈ batch source root label lineEnding)
    (hne : d.name ≠ e.name) :
    d.range.Apart e.range ∧ (d.range.start = e.range.start →
      d.range.start = d.range.stop ∧ e.range.start = e.range.stop) := by
  have hd' := start_le_stop_of_slice (fits placed hd)
  have he' := start_le_stop_of_slice (fits placed he)
  unfold Range.Apart
  rcases inserts_or_rewrites placed hd with hid | ⟨t, ht, hrw⟩
  · rcases inserts_or_rewrites placed he with hie | ⟨t, ht, hrw⟩
    · omega
    · obtain ⟨hin, hlt, hpos, -⟩ := hrw.inside (placed.child ht)
      have hap := (apart_or_rewrites placed hd ht).resolve_right fun h => hne (h.name_eq hrw)
      simp only [Range.Apart, Range.Inside, Node.range] at hin hap
      omega
  · obtain ⟨hin, hlt, hpos, -⟩ := hrw.inside (placed.child ht)
    have hap := (apart_or_rewrites placed he ht).resolve_right fun h => hne (hrw.name_eq h)
    simp only [Range.Apart, Range.Inside, Node.range] at hin hap
    omega

/-- The edits of a batch can be carried out side by side. -/
theorem separate_batch (placed : Placed source root) (label lineEnding : String) :
    Separate (textEdits (batch source root label lineEnding)) := by
  rw [Separate, textEdits, List.pairwise_map]
  refine (batch_pairwise placed label lineEnding).imp_of_mem fun {d e} hd he hne => ?_
  obtain ⟨hap, heq⟩ := batch_apart placed hd he hne
  have := start_le_stop_of_slice (fits placed hd)
  have := start_le_stop_of_slice (fits placed he)
  simp only [NameEdit.toEdit, Range.Apart] at hap ⊢
  omega

/-- The batch can be carried out. -/
theorem exists_spliced_batch (placed : Placed source root) (label lineEnding : String) :
    ∃ source',
      Spliced 0 (inOrder (textEdits (batch source root label lineEnding))) source source' ∧
      Edit.applyAll (textEdits (batch source root label lineEnding)) source = some source' := by
  refine Edit.applyAll_spliced (separate_batch placed label lineEnding) fun f hf => ?_
  obtain ⟨e, he, rfl⟩ := List.mem_map.mp hf
  exact fits placed he

/-- In a statement that an edit rewrites there is no other edit. -/
theorem within_statement (placed : Placed source root)
    (he : e ∈ batch source root label lineEnding) {n : Node} (hn : n ∈ root.children)
    (hrw : Rewrites source e n) :
    within (inOrder (textEdits (batch source root label lineEnding))) n.range = [e.toEdit] := by
  obtain ⟨hin, -, hpos, -⟩ := hrw.inside (placed.child hn)
  exact within_singleton (batch_pairwise placed label lineEnding) he hin hpos fun d hd hne =>
    (apart_or_rewrites placed hd hn).resolve_right fun h => hne (h.name_eq hrw)

end

/-! ## The text afterwards -/

/-- Some of the edits that name the components of a file have been carried out. -/
structure Carried (source source' : List Char) (root : Node) (label lineEnding : String)
    (edits : List NameEdit) : Prop where
  placed : Placed source root
  chosen : edits.Sublist (batch source root label lineEnding)
  spliced : Spliced 0 (inOrder (textEdits edits)) source source'

namespace Carried

variable {source source' : List Char} {root : Node} {label lineEnding : String}
  {edits : List NameEdit}

theorem mem_batch (h : Carried source source' root label lineEnding edits) {e : NameEdit}
    (he : e ∈ edits) : e ∈ batch source root label lineEnding := h.chosen.subset he

/-- An edit keeps away from every node at the top of a file, but for the one it rewrites. -/
theorem apart_or_rewrites (h : Carried source source' root label lineEnding edits) {e : NameEdit}
    (he : e ∈ edits) {n : Node} (hn : n ∈ root.children) :
    e.range.Apart n.range ∨ Rewrites source e n :=
  Naming.apart_or_rewrites h.placed (h.mem_batch he) hn

/-- A node at the top of a file is cut by no edit. -/
theorem respects (h : Carried source source' root label lineEnding edits) {n : Node}
    (hn : n ∈ root.children) : Respects (inOrder (textEdits edits)) n.range := by
  refine Respects.perm (Edit.inOrder_perm _).symm fun f hf => ?_
  obtain ⟨e, he, rfl⟩ := List.mem_map.mp hf
  exact (h.apart_or_rewrites he hn).imp_right fun hrw => (hrw.inside (h.placed.child hn)).1

/-- Where no edit is, the text is the same. -/
theorem slice_eq (h : Carried source source' root label lineEnding edits) {r : Range}
    (hr : (slice source r).isSome) (hap : ∀ e ∈ edits, e.range.Apart r) :
    slice source' (moved (textEdits edits) r) = slice source r := by
  have hperm := Edit.inOrder_perm (textEdits edits)
  obtain ⟨text, ht⟩ := Option.isSome_iff_exists.mp hr
  rw [ht, ← Edit.moved_perm hperm]
  refine h.spliced.slice_moved_of_apart ht fun f hf => ?_
  obtain ⟨e, he, rfl⟩ := List.mem_map.mp (hperm.mem_iff.mp hf)
  exact hap e he

/-- What becomes of a statement. -/
theorem slice_statement (h : Carried source source' root label lineEnding edits) {n : Node}
    (hn : n ∈ root.children) :
    ∃ part part', slice source n.range = some part ∧
      slice source' (moved (textEdits edits) n.range) = some part' ∧
      Spliced n.start.byte (within (inOrder (textEdits edits)) n.range) part part' := by
  obtain ⟨part, hp⟩ := Option.isSome_iff_exists.mp (h.placed.covers n (Node.nodes_of_child hn))
  obtain ⟨part', hs, hp'⟩ := h.spliced.slice_moved hp (h.respects hn)
  rw [Edit.moved_perm (Edit.inOrder_perm _)] at hp'
  exact ⟨part, part', hp, hp', hs⟩

/-- Statements keep their order. -/
theorem stop_le_start (h : Carried source source' root label lineEnding edits) {m n : Node}
    (hm : m ∈ root.children) (hn : n ∈ root.children) (hle : m.stop.byte ≤ n.start.byte) :
    (moved (textEdits edits) m.range).stop ≤ (moved (textEdits edits) n.range).start := by
  simp only [← Edit.moved_perm (Edit.inOrder_perm (textEdits edits))]
  exact h.spliced.moved_stop_le_start (h.placed.covers m (Node.nodes_of_child hm))
    (h.placed.covers n (Node.nodes_of_child hn)) (h.respects hm) (h.respects hn) hle

end Carried

/-- The edits that name the components of a file have been carried out. -/
structure Named (source source' : List Char) (root : Node) (label lineEnding : String) :
    Prop where
  placed : Placed source root
  spliced : Spliced 0 (inOrder (textEdits (batch source root label lineEnding))) source source'

namespace Named

variable {source source' : List Char} {root : Node} {label lineEnding : String}

theorem carried (h : Named source source' root label lineEnding) :
    Carried source source' root label lineEnding (batch source root label lineEnding) :=
  ⟨h.placed, .refl _, h.spliced⟩

/-- Where no edit is, the text is the same. -/
theorem slice_eq (h : Named source source' root label lineEnding) {r : Range}
    (hr : (slice source r).isSome)
    (hap : ∀ e ∈ batch source root label lineEnding, e.range.Apart r) :
    slice source' (moved (textEdits (batch source root label lineEnding)) r) = slice source r :=
  h.carried.slice_eq hr hap

/-- What becomes of a statement. -/
theorem slice_statement (h : Named source source' root label lineEnding) {n : Node}
    (hn : n ∈ root.children) :
    ∃ part part', slice source n.range = some part ∧
      slice source' (moved (textEdits (batch source root label lineEnding)) n.range) = some part' ∧
      Spliced n.start.byte
        (within (inOrder (textEdits (batch source root label lineEnding))) n.range) part part' :=
  h.carried.slice_statement hn

/-- Statements keep their order. -/
theorem stop_le_start (h : Named source source' root label lineEnding) {m n : Node}
    (hm : m ∈ root.children) (hn : n ∈ root.children) (hle : m.stop.byte ≤ n.start.byte) :
    (moved (textEdits (batch source root label lineEnding)) m.range).stop ≤
      (moved (textEdits (batch source root label lineEnding)) n.range).start :=
  h.carried.stop_le_start hm hn hle

end Named

/-- In the sample one component gets a statement and the other a literal. -/
theorem batch_sample : batch sampleText sampleTree "X" "\n" =
    [⟨"A", ⟨14, 14⟩, "\nA.displayName = \"XA\";"⟩, ⟨"B", ⟨42, 45⟩, "'XB'"⟩] := by
  decide +kernel

end Nameplate.Naming
