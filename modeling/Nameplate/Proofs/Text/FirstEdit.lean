import Nameplate.Proofs.Text.Splice

/-!
# One edit ahead of the others

Of several edits one can be carried out first. The others then refer to another text, and those
behind it have to be moved.

* `filter_mergeSort`: a part of a list is sorted as in the whole list;
* `moved_before`, `moved_behind`: what one edit does to a range before or behind it;
* `Edit.Spliced.ahead`: one edit first and then the others give the same text as all at once;
* `rowAt`: the row of an offset, and what one edit does to it.
-/

namespace Nameplate.Text

/-! ## Sorting a part of a list -/

/-- Two ways to cut a list between members with a property and members without it. -/
theorem append_inj_of_filter {α : Type} {p : α → Bool} {a b c d : List α} (h : a ++ b = c ++ d)
    (ha : ∀ x ∈ a, p x = true) (hb : ∀ x ∈ b, p x = false) (hc : ∀ x ∈ c, p x = true)
    (hd : ∀ x ∈ d, p x = false) : a = c ∧ b = d := by
  have hpart : ∀ {a b : List α}, (∀ x ∈ a, p x = true) → (∀ x ∈ b, p x = false) →
      (a ++ b).filter p = a := fun ha hb => by
    rw [List.filter_append, List.filter_eq_self.mpr ha,
      List.filter_eq_nil_iff.mpr fun x hx => by simp [hb x hx], List.append_nil]
  have hac : a = c := by rw [← hpart ha hb, h, hpart hc hd]
  exact ⟨hac, List.append_cancel_left (hac ▸ h)⟩

/-- Where a member is put by a sort: behind all that are less, and before all others. -/
theorem mergeSort_cons_cut {α : Type} {le : α → α → Bool}
    (trans : ∀ a b c, le a b = true → le b c = true → le a c = true)
    (total : ∀ a b, (le a b || le b a) = true) (x : α) (l : List α) :
    ∃ a b, (x :: l).mergeSort le = a ++ x :: b ∧ l.mergeSort le = a ++ b ∧
      (∀ y ∈ a, (!le x y) = true) ∧ ∀ y ∈ b, (!le x y) = false := by
  obtain ⟨a, b, hab, hl, ha⟩ := List.mergeSort_cons trans total x l
  have hsorted := List.pairwise_mergeSort trans total (x :: l)
  rw [hab] at hsorted
  have hb := (List.pairwise_cons.mp (List.pairwise_append.mp hsorted).2.1).1
  exact ⟨a, b, hab, hl, ha, fun y hy => by simpa using hb y hy⟩

/-- A part of a list is sorted as in the whole list: the sort keeps the order of members that are
equal. -/
theorem filter_mergeSort {α : Type} {le : α → α → Bool}
    (trans : ∀ a b c, le a b = true → le b c = true → le a c = true)
    (total : ∀ a b, (le a b || le b a) = true) (p : α → Bool) (l : List α) :
    (l.mergeSort le).filter p = (l.filter p).mergeSort le := by
  induction l with
  | nil => simp
  | cons x l ih =>
    obtain ⟨a, b, hab, hl, ha, hb⟩ := mergeSort_cons_cut trans total x l
    rw [hl, List.filter_append] at ih
    rw [hab, List.filter_append, List.filter_cons, List.filter_cons]
    by_cases hx : p x = true
    · obtain ⟨c, d, hcd, hl', hc, hd⟩ := mergeSort_cons_cut trans total x (l.filter p)
      obtain ⟨hac, hbd⟩ := append_inj_of_filter (ih.trans hl')
        (fun y hy => ha y (List.mem_filter.mp hy).1) (fun y hy => hb y (List.mem_filter.mp hy).1)
        hc hd
      rw [if_pos hx, if_pos hx, hcd, hac, hbd]
    · rw [if_neg hx, if_neg hx, ih]

namespace Edit

/-! ## Ranges before and behind an edit -/

section

variable {e : Edit} {r : Range}

/-- What stands before an edit stays where it is. -/
theorem moved_before (h : r.stop ≤ e.range.start) : moved [e] r = r := by
  simp [moved, shifted, show ¬ e.range.start < r.stop by omega]

/-- What stands behind an edit is shifted by it. -/
theorem moved_behind (h : e.range.stop ≤ r.start) (hlt : e.range.start < r.stop) :
    moved [e] r = ⟨shifted [e] r.start, shifted [e] r.stop⟩ := by
  simp [moved, h, hlt]

end

/-- An edit as it is carried out after another one. -/
def after (e d : Edit) : Edit := ⟨moved [e] d.range, d.newText⟩

namespace Spliced

variable {offset : Nat} {edits : List Edit} {text text' : List Char}

/-- Edits of two texts are edits of both together. -/
theorem append {es fs : List Edit} {u u' q q' : List Char} {k b : Nat} (h : Spliced k es u u')
    (hb : k + byteLength u = b) (h' : Spliced b fs q q') :
    Spliced k (es ++ fs) (u ++ q) (u' ++ q') := by
  induction h generalizing b with
  | done k u =>
    cases h' with
    | done => exact .done ..
    | @step _ e fs gap old t t' hg ho h =>
      rw [← List.append_assoc, ← List.append_assoc u gap]
      exact .step (by rw [byteLength_append]; omega) ho h
  | @step k e es gap old t t' hg ho _ ih =>
    simp only [byteLength_append] at hb
    simp only [List.append_assoc, List.cons_append]
    exact .step hg ho (ih (by omega) h')

/-- Text before all edits. -/
theorem prepend (h : Spliced offset edits text text') {front : List Char} {k : Nat}
    (hk : k + byteLength front = offset) :
    Spliced k edits (front ++ text) (front ++ text') := append (.done k front) hk h

/-- Edits that are all shifted in the same way. -/
theorem shift (h : Spliced offset edits text text') {place : Nat → Nat} {move : Edit → Edit}
    (hplace : ∀ n k, offset ≤ n → place (n + k) = place n + k)
    (hmove : ∀ d ∈ edits, move d =
      ⟨⟨place d.range.start, place d.range.stop⟩, d.newText⟩) :
    Spliced (place offset) (edits.map move) text text' := by
  induction h with
  | done => exact .done ..
  | @step offset d edits gap old t t' hg ho h ih =>
    have hd := hmove d List.mem_cons_self
    have hrest := ih (fun n k hn => hplace n k (by omega))
      fun f hf => hmove f (List.mem_cons_of_mem _ hf)
    have hstart : place offset + byteLength gap = (move d).range.start := by
      rw [hd, ← hg, hplace _ _ (Nat.le_refl _)]
    have hstop : (move d).range.start + byteLength old = (move d).range.stop := by
      rw [hd, ← ho, hplace _ _ (by omega)]
    have htext : (move d).newText = d.newText := by rw [hd]
    rw [List.map_cons, ← htext]
    refine .step hstart hstop ?_
    rw [hd]
    exact hrest

/-- One edit first and then the others give the same text as all at once. The edits behind the first
one start behind it. -/
theorem ahead {es fs : List Edit} {e : Edit} (h : Spliced 0 (es ++ e :: fs) text text')
    (hfs : ∀ d ∈ fs, e.range.start < d.range.start) :
    ∃ between, Spliced 0 [e] text between ∧ e.apply text = some between ∧
      Spliced 0 ((es ++ fs).map (after e)) between text' := by
  obtain ⟨u, q, rfl, hu⟩ := h.front
  obtain ⟨u', q', rfl, h1, h2⟩ := h.split hu h.stop_le_start.1 h.stop_le_start.2
  cases h2 with
  | @step _ _ _ gap old t t' hg ho h3 =>
    obtain rfl : gap = [] := byteLength_eq_zero.mp (by omega)
    simp only [List.nil_append] at *
    have hone : Spliced 0 [e] (u ++ (old ++ t)) (u ++ (e.newText.toList ++ t)) :=
      .step hu ho (.done ..)
    have happly := foldrM_apply hone (f := []) rfl
    simp only [List.nil_append, List.foldrM_cons, List.foldrM_nil, Option.pure_def,
      Option.bind_eq_bind, Option.bind_some] at happly
    refine ⟨_, hone, happly, ?_⟩
    have hbefore : es.map (after e) = es := by
      refine List.map_congr_left (fun d hd => ?_) |>.trans (List.map_id es)
      rw [after, moved_before (h.stop_le_start.1 d hd)]
      rfl
    have hbehind : Spliced (shifted [e] e.range.stop) (fs.map (after e)) t t' := by
      have hplace : ∀ n k, e.range.stop ≤ n → shifted [e] (n + k) = shifted [e] n + k := by
        intro n k hn
        simp only [shifted, added_cons, added_nil, removed_cons, removed_nil]
        omega
      refine h3.shift hplace fun d hd => ?_
      have hstart := h3.le_start d hd
      have := hfs d hd
      rw [after, moved_behind hstart.1 (by omega)]
    rw [List.map_append, hbefore]
    refine h1.append rfl (hbehind.prepend ?_)
    simp only [shifted, added_cons, added_nil, removed_cons, removed_nil]
    omega

end Spliced

end Edit

/-! ## Rows -/

/-- The row of an offset: the number of line feeds before it. -/
def rowAt (text : List Char) (offset : Nat) : Nat := ((takeBytes offset text).getD []).count '\n'

theorem rowAt_append (front back : List Char) :
    rowAt (front ++ back) (byteLength front) = front.count '\n' := by
  rw [rowAt, takeBytes_append, Option.getD_some]

/-- Between two offsets on one row there is no line feed. -/
theorem slice_of_rowAt_eq {text : List Char} {i j : Nat} (hi : StandsAt text i [])
    (hj : StandsAt text j []) (hle : i ≤ j) (hrow : rowAt text j = rowAt text i) :
    ∃ gap, slice text ⟨i, j⟩ = some gap ∧ '\n' ∉ gap := by
  obtain ⟨gap, hgap, hlen⟩ := hi.between hj (by simpa using hle)
  simp only [byteLength_nil, Nat.add_zero] at hgap hlen
  refine ⟨gap, slice_eq_some.mpr ⟨hgap, hlen.symm⟩, ?_⟩
  obtain ⟨front, back, rfl, rfl⟩ := hgap
  have hj : rowAt (front ++ (gap ++ back)) j = (front ++ gap).count '\n' := by
    rw [← List.append_assoc, ← hlen, ← byteLength_append, rowAt_append]
  rw [hj, rowAt_append, List.count_append] at hrow
  exact List.count_eq_zero.mp (by omega)

section

variable {e : Edit} {text text' : List Char}

/-- Before an edit rows stay as they are. -/
theorem rowAt_before (h : Edit.Spliced 0 [e] text text') {n : Nat} (hn : StandsAt text n [])
    (hle : n ≤ e.range.start) : rowAt text' n = rowAt text n := by
  cases h with
  | @step _ _ _ gap old t t' hg ho h =>
    obtain ⟨front, back, htext, rfl⟩ := hn
    obtain ⟨m, rfl, -⟩ := append_eq_append_of_byteLength_le htext.symm (by omega)
    rw [List.append_assoc, rowAt_append, List.append_assoc, rowAt_append]

/-- Behind an edit all rows are counted anew in the same way. -/
theorem rowAt_behind (h : Edit.Spliced 0 [e] text text') :
    ∃ gone come, ∀ n, StandsAt text n [] → e.range.stop ≤ n →
      rowAt text' (Edit.shifted [e] n) + gone = rowAt text n + come := by
  cases h with
  | @step _ _ _ gap old t t' hg ho h =>
    cases h
    refine ⟨old.count '\n', e.newText.toList.count '\n', fun n hn hle => ?_⟩
    obtain ⟨front, back, htext, rfl⟩ := hn
    obtain ⟨m, rfl, ht⟩ := append_eq_append_of_byteLength_le
      (show (gap ++ old) ++ t = front ++ ([] ++ back) by simpa using htext)
      (by rw [byteLength_append]; omega)
    have hplace : Edit.shifted [e] (byteLength (gap ++ old ++ m)) =
        byteLength (gap ++ (e.newText.toList ++ m)) := by
      simp only [Edit.shifted, Edit.added_cons, Edit.added_nil, Edit.removed_cons,
        Edit.removed_nil, byteLength_append]
      omega
    have hbefore : gap ++ (old ++ t) = (gap ++ old ++ m) ++ back := by simpa using ht
    have hbehind : gap ++ (e.newText.toList ++ t) =
        (gap ++ (e.newText.toList ++ m)) ++ back := by simpa using ht
    rw [hplace, hbefore, hbehind, rowAt_append, rowAt_append]
    simp only [List.count_append]
    omega

end

end Nameplate.Text
