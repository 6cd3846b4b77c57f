import Nameplate.Proofs.Naming.SingleEdit

/-!
# The edits that remain

After one of the edits that name the components of a file, the other edits are still to be made, at
the places where the first one moved them.

* `NameEdit.after`: an edit as it is made after another one;
* `Turn.existing_eq`: a component keeps the name it has, but for the one that was named;
* `Turn.batch_eq`: the edits afterwards are the other edits, moved;
* `Turn.applyAll_eq`: they lead to the same text.
-/

namespace Nameplate.Naming

open Text (Range Edit)
open Text.Edit (Spliced inOrder moved shifted)
open Tsx (Node Placed rel_none_left rel_some_left forall₂_mem)

/-- An edit as it is made after another one. -/
def NameEdit.after (e d : NameEdit) : NameEdit := ⟨d.name, moved [e.toEdit] d.range, d.newText⟩

theorem textEdits_after (e : NameEdit) (edits : List NameEdit) :
    textEdits (edits.map e.after) = (textEdits edits).map (Edit.after e.toEdit) := by
  rw [textEdits, textEdits, List.map_map, List.map_map]
  rfl

/-! ## Components -/

/-- A display name at another place. -/
def movedName (place : Range → Range) (x : ExistingName) : ExistingName :=
  ⟨place x.range, x.value.movedBy place⟩

/-- What is to be done about a component at another place. -/
theorem edit?_draft_moved {place : Range → Range} {c c' : Candidate} (hname : c'.name = c.name)
    (hpoint : Range.empty c'.insertionPoint = place (.empty c.insertionPoint))
    (hexisting : c'.existing = c.existing.map (movedName place))
    (identification lineEnding : String) :
    (draft c' identification lineEnding).edit? =
      (draft c identification lineEnding).edit?.map fun d =>
        ⟨d.name, place d.range, d.newText⟩ := by
  unfold draft
  rw [hexisting, hname, hpoint]
  cases c.existing with
  | none => rfl
  | some x =>
    obtain ⟨r, value⟩ := x
    cases value with
    | computed => rfl
    | literal raw range quote =>
      simp only [Option.map_some, movedName, NameValue.movedBy]
      split
      · rfl
      · rfl

/-- A component of a file and of the file after an edit: the one that the edit is about needs no
other, and what the others need is moved. -/
structure Remains (label lineEnding : String) (e : NameEdit) (c c' : Candidate) : Prop where
  name : c'.name = c.name
  done : c.name = e.name → (draft c' (displayName c'.name label) lineEnding).edit? = none
  left : c.name ≠ e.name → (draft c' (displayName c'.name label) lineEnding).edit? =
    (draft c (displayName c.name label) lineEnding).edit?.map e.after

namespace Turn

variable {source source' : List Char} {root root' : Node} {label lineEnding : String}
  {e : NameEdit}

/-- A component that the edit is not about keeps the name that it has. -/
theorem existing_eq (h : Turn source source' root root' label lineEnding e)
    {d d' : Declaration} {i i' : Nat}
    (hd : (d, i) ∈ firstOfEachName (declarationsIn source root.children))
    (hre : Redeclares (moved [e.toEdit]) d d') (hname : d.name ≠ e.name) :
    (candidateOf (assignmentsIn source' root'.children) d' i').existing =
      (candidateOf (assignmentsIn source root.children) d i).existing.map
        (movedName (moved [e.toEdit])) := by
  obtain ⟨_, s, following, hs, hk, hrange, -⟩ :=
    declared_of_mem (List.mem_map.mpr ⟨(d, i), hd, rfl⟩)
  have hrange : d.range = s.range := hrange
  have hstop : d.range.stop = s.stop.byte := congrArg Range.stop hrange
  have hrel := h.carried.rel_find?_givesName h.reparsed.rebuilt
    (fun f hf _ => by rw [List.mem_singleton.mp hf]; exact hname.symm) (s := s) (by simp [hs]) hk
  rw [textEdits_singleton] at hrel
  rw [existing_candidateOf, existing_candidateOf, hre.name, hre.range, hstop, hrange]
  cases hfind : root.children.find? (givesName source d.name s.stop.byte) with
  | none =>
    rw [hfind] at hrel
    rw [rel_none_left hrel]
    rfl
  | some n =>
    rw [hfind] at hrel
    obtain ⟨n', hfind', hn, hb⟩ := rel_some_left hrel
    obtain ⟨-, m, l, o, p, r, ha, ho, -, -⟩ := givesName_iff.mp (List.find?_some hfind)
    obtain ⟨m', l', o', p', r', ha', -, -, hbr⟩ := h.carried.assigns hn hb ha
    have hap : ∀ f ∈ [e], f.range.Apart n.range := fun f hf =>
      h.carried.apart_of_name_ne hn ha hf (by rw [List.mem_singleton.mp hf, ho]; exact hname.symm)
    have hvalue := h.carried.valueOf hn ha hap hbr
    rw [hfind', Option.bind_some, Option.bind_some, ha.assignmentOf_eq, ha'.assignmentOf_eq,
      Option.map_some, Option.map_some, Option.map_some, hvalue, hb.range_eq]
    rfl

/-- The place behind a component is where the edit moves it. -/
theorem empty_insertionPoint (h : Turn source source' root root' label lineEnding e)
    {c c' : Candidate} (hc : c ∈ candidatesIn source root.children)
    (hc' : c' ∈ candidatesIn source' root'.children)
    (hrange : c'.range = moved [e.toEdit] c.range) :
    Range.empty c'.insertionPoint = moved [e.toEdit] (.empty c.insertionPoint) := by
  obtain ⟨x, s, y, hs, hpart, hk, hcs, hpoint⟩ := statement_of_mem hc
  obtain ⟨x', s', y', hs', -, -, hcs', hpoint'⟩ := statement_of_mem hc'
  rw [hpoint, hpoint']
  refine h.insertionPoint_eq hs hs' hk (extra_of_part hpart) ?_
  rw [← hcs', hrange, hcs]

/-- The same components are found, and one of them has been dealt with. -/
theorem remains (h : Turn source source' root root' label lineEnding e) :
    List.Forall₂ (Remains label lineEnding e) (candidatesIn source root.children)
      (candidatesIn source' root'.children) := by
  have hpairs := forall₂_mem (firstOfEachName_rel (fun _ _ hd => hd.name)
    (h.carried.redeclares_all h.reparsed.rebuilt fun n hn => hn))
  refine List.rel_map (fun d d' hd => ?_) hpairs
  obtain ⟨hmem, hmem', hre⟩ := hd
  have hre : Redeclares (moved [e.toEdit]) d.1 d'.1 := hre
  have hc : candidateOf (assignmentsIn source root.children) d.1 d.2 ∈
      candidatesIn source root.children := List.mem_map.mpr ⟨d, hmem, rfl⟩
  have hc' : candidateOf (assignmentsIn source' root'.children) d'.1 d'.2 ∈
      candidatesIn source' root'.children := List.mem_map.mpr ⟨d', hmem', rfl⟩
  refine ⟨hre.name, fun hname => ?_, fun hname => ?_⟩
  · -- Its edit is the one that has been made.
    refine Plan.edit?_eq_none.mpr (draft_eq_nothing.mpr
      (h.carried.settled_again h.reparsed.rebuilt hmem (fun f hf => ?_) hre))
    have hf' := (mem_batch h.legible.placed).mpr ⟨_, hc, hf⟩
    have hfe := (draft_cases hf).1.trans hname
    exact List.mem_singleton.mpr (batch_unique h.legible.placed hf' h.chosen hfe)
  · rw [show displayName (candidateOf _ d'.1 d'.2).name label = displayName d.1.name label by
      rw [← hre.name]; rfl]
    exact edit?_draft_moved hre.name (h.empty_insertionPoint hc hc' hre.range)
      (h.existing_eq hmem hre hname) _ _

end Turn

/-! ## Edits -/

/-- No edit is held back. -/
theorem batch_eq_drafts {source : List Char} {root : Node} (placed : Placed source root)
    (label lineEnding : String) :
    batch source root label lineEnding = (candidatesIn source root.children).filterMap fun c =>
      (draft c (displayName c.name label) lineEnding).edit? := by
  refine List.filterMap_congr fun c hc => ?_
  rw [planFor, plan_eq_draft placed.stacked hc]

/-- The edits that components need after an edit. -/
theorem filterMap_remains {label lineEnding : String} {e : NameEdit} {cs cs' : List Candidate}
    (h : List.Forall₂ (Remains label lineEnding e) cs cs') :
    (cs'.filterMap fun c => (draft c (displayName c.name label) lineEnding).edit?) =
      ((cs.filterMap fun c => (draft c (displayName c.name label) lineEnding).edit?).filter
        fun d => d.name != e.name).map e.after := by
  induction h with
  | nil => rfl
  | @cons c c' cs cs' hc _ ih =>
    rw [List.filterMap_cons, List.filterMap_cons, ih]
    by_cases hname : c.name = e.name
    · rw [hc.done hname]
      cases hd : (draft c (displayName c.name label) lineEnding).edit? with
      | none => rfl
      | some d =>
        have hde : d.name = e.name := (draft_cases hd).1.trans hname
        simp [hde]
    · rw [hc.left hname]
      cases hd : (draft c (displayName c.name label) lineEnding).edit? with
      | none => rfl
      | some d =>
        have hde : d.name ≠ e.name := fun hde => hname ((draft_cases hd).1.symm.trans hde)
        simp [hde]

theorem inPlaces_perm (edits : List NameEdit) : (inPlaces edits).Perm edits :=
  List.mergeSort_perm ..

/-- The edits but for one. -/
theorem filter_name_ne {fs gs : List NameEdit} {e : NameEdit}
    (h : (fs ++ e :: gs).Pairwise fun c d => c.name ≠ d.name) :
    (fs ++ e :: gs).filter (fun d => d.name != e.name) = fs ++ gs := by
  obtain ⟨-, hgs, hfs⟩ := List.pairwise_append.mp h
  rw [List.filter_append, List.filter_cons_of_neg (by simp),
    List.filter_eq_self.mpr fun d hd => by simpa using hfs d hd e List.mem_cons_self,
    List.filter_eq_self.mpr fun d hd => by simpa using ((List.pairwise_cons.mp hgs).1 d hd).symm]

/-- Two edits at one place are in the order of the list. -/
theorem sublist_of_inPlaces {edits : List NameEdit} {d e : NameEdit}
    (h : [d, e].Sublist (inPlaces edits)) (heq : d.range.start = e.range.start) :
    [d, e].Sublist edits := by
  have hpart : (inPlaces edits).filter (fun f => f.range.start == e.range.start) =
      edits.filter fun f => f.range.start == e.range.start := by
    rw [inPlaces, Text.filter_mergeSort (by simp; omega) (by simp; omega)]
    refine List.mergeSort_of_pairwise (List.pairwise_of_forall_mem_list fun a ha b hb => ?_)
    have ha := (List.mem_filter.mp ha).2
    have hb := (List.mem_filter.mp hb).2
    simp only [beq_iff_eq] at ha hb
    simp [ha, hb]
  have hboth := h.filter fun f => f.range.start == e.range.start
  rw [hpart] at hboth
  simp only [heq, beq_self_eq_true, List.filter_cons_of_pos, List.filter_nil] at hboth
  exact hboth.trans List.filter_sublist

namespace Turn

variable {source source' : List Char} {root root' : Node} {label lineEnding : String}
  {e : NameEdit}

/-- The edits afterwards are the other edits, moved. -/
theorem batch_eq (h : Turn source source' root root' label lineEnding e) :
    batch source' root' label lineEnding =
      ((batch source root label lineEnding).filter fun d => d.name != e.name).map e.after := by
  rw [batch_eq_drafts h.legible.placed, batch_eq_drafts h.legible'.placed]
  exact filterMap_remains h.remains

/-- Another edit stands before this one and stays where it is, or behind it and is shifted. -/
theorem before_or_behind (h : Turn source source' root root' label lineEnding e) {d : NameEdit}
    (hd : d ∈ batch source root label lineEnding) (hne : d.name ≠ e.name) :
    (d.range.start ≤ e.range.start ∧ (e.after d).range.start = d.range.start) ∨
      (e.range.start < d.range.start ∧ e.range.stop ≤ d.range.start ∧
        (e.after d).range.start = shifted [e.toEdit] d.range.start) := by
  have hle := Text.start_le_stop_of_slice (fits h.legible.placed hd)
  have hle' := h.start_le_stop
  obtain ⟨hap, hsame⟩ := batch_apart h.legible.placed hd h.chosen hne
  by_cases hbefore : d.range.stop ≤ e.range.start
  · refine .inl ⟨Nat.le_trans hle hbefore, ?_⟩
    rw [NameEdit.after, Edit.moved_before hbefore]
  · have hbehind := hap.resolve_left hbefore
    have hlt : e.range.start < d.range.start := by omega
    refine .inr ⟨hlt, hbehind, ?_⟩
    rw [NameEdit.after, Edit.moved_behind hbehind (Nat.lt_of_lt_of_le hlt hle)]

/-- The other edits keep the order of their places. -/
theorem start_after_le_iff (h : Turn source source' root root' label lineEnding e)
    {c d : NameEdit} (hc : c ∈ batch source root label lineEnding) (hcne : c.name ≠ e.name)
    (hd : d ∈ batch source root label lineEnding) (hdne : d.name ≠ e.name) :
    (e.after c).range.start ≤ (e.after d).range.start ↔ c.range.start ≤ d.range.start := by
  have hpos : Text.byteLength e.newText.toList ≠ 0 :=
    mt Text.byteLength_eq_zero.mp (newText_ne_nil h.legible.placed h.chosen)
  have hle := h.start_le_stop
  have hc := h.before_or_behind hc hcne
  have hd := h.before_or_behind hd hdne
  simp only [shifted, Edit.added_cons, Edit.added_nil, Edit.removed_cons, Edit.removed_nil,
    NameEdit.toEdit] at hc hd
  omega

/-- The edits afterwards in the order of their places. -/
theorem inPlaces_eq (h : Turn source source' root root' label lineEnding e) :
    inPlaces (batch source' root' label lineEnding) =
      ((inPlaces (batch source root label lineEnding)).filter
        fun d => d.name != e.name).map e.after := by
  rw [h.batch_eq, inPlaces, inPlaces, Text.filter_mergeSort (by simp; omega) (by simp; omega)]
  refine (List.map_mergeSort fun c hc d hd => ?_).symm
  obtain ⟨hc, hcne⟩ := List.mem_filter.mp hc
  obtain ⟨hd, hdne⟩ := List.mem_filter.mp hd
  exact decide_eq_decide.mpr
    (h.start_after_le_iff hc (by simpa using hcne) hd (by simpa using hdne)).symm

/-- The edits afterwards lead to the text that all edits together make, if no later one is at the
place of the first. -/
theorem applyAll_eq (h : Turn source source' root root' label lineEnding e)
    (hlast : ∀ d, [e, d].Sublist (batch source root label lineEnding) →
      d.range.start ≠ e.range.start) :
    Edit.applyAll (textEdits (batch source' root' label lineEnding)) source' =
      Edit.applyAll (textEdits (batch source root label lineEnding)) source := by
  obtain ⟨final, hspliced, happly⟩ := exists_spliced_batch h.legible.placed label lineEnding
  obtain ⟨fs, gs, hes⟩ := List.append_of_mem (mem_inPlaces.mpr h.chosen)
  have hbehind : ∀ d ∈ gs, e.range.start < d.range.start := fun d hd => by
    have hpair : [e, d].Sublist (inPlaces (batch source root label lineEnding)) := by
      rw [hes]
      exact ((List.singleton_sublist.mpr hd).cons_cons e).trans (List.sublist_append_right fs _)
    have hsorted := (List.pairwise_mergeSort (by simp; omega) (by simp; omega) _).sublist hpair
    have hle : e.range.start ≤ d.range.start := by simpa using hsorted
    refine Nat.lt_of_le_of_ne hle fun heq => ?_
    exact hlast d (sublist_of_inPlaces hpair heq) heq.symm
  have hrest : (inPlaces (batch source root label lineEnding)).filter
      (fun d => d.name != e.name) = fs ++ gs := by
    have hnames := (inPlaces_perm _).symm.pairwise
      (batch_pairwise h.legible.placed label lineEnding) Ne.symm
    rw [hes] at hnames ⊢
    exact filter_name_ne hnames
  rw [← textEdits_inPlaces, hes, textEdits, List.map_append, List.map_cons] at hspliced
  obtain ⟨between, -, hbetween, hlater⟩ := hspliced.ahead fun f hf => by
    obtain ⟨d, hd, rfl⟩ := List.mem_map.mp hf
    exact hbehind d hd
  obtain rfl := Option.some.inj (h.applied.symm.trans hbetween)
  rw [happly]
  refine Edit.applyAll_of_spliced ?_
  rw [← textEdits_inPlaces, h.inPlaces_eq, hrest, textEdits_after, textEdits, List.map_append]
  exact hlater

end Turn

end Nameplate.Naming
