import Nameplate.Proofs.Text.Slice
import Nameplate.Text.Edit

/-!
# Many edits of one text

Edits that keep out of each other's way can be carried out side by side: the text between them
stays, and each of them puts its own text in the place of its range.

* `Range.Apart`, `Range.Inside`, `Edit.Separate`: how ranges lie to each other;
* `Edit.Spliced`: a text and what edits make of it, piece by piece;
* `Edit.applyAll_spliced`: separate edits can be carried out, and that is what comes of it;
* `Edit.moved`: where a range of the text is found afterwards (`Edit.slice_moved`), which keeps the
  order of ranges (`Edit.moved_stop_le_start`);
* `Edit.Spliced.landing`: where the text of an edit is found.
-/

namespace Nameplate.Text

/-- No offset of one range lies strictly between the ends of the other, even if one is empty. -/
def Range.Apart (r s : Range) : Prop := r.stop ≤ s.start ∨ s.stop ≤ r.start

/-- A range between the ends of another. -/
def Range.Inside (r s : Range) : Prop := s.start ≤ r.start ∧ r.stop ≤ s.stop

instance (r s : Range) : Decidable (r.Apart s) := inferInstanceAs (Decidable (_ ∨ _))

instance (r s : Range) : Decidable (r.Inside s) := inferInstanceAs (Decidable (_ ∧ _))

theorem Range.Apart.mono {r s t : Range} (h : r.Apart s) (ht : t.Inside s) : r.Apart t := by
  unfold Range.Apart Range.Inside at *
  omega

theorem Range.Inside.trans {r s t : Range} (h : r.Inside s) (ht : s.Inside t) : r.Inside t :=
  ⟨Nat.le_trans ht.1 h.1, Nat.le_trans h.2 ht.2⟩

namespace Edit

/-! ## Bytes that come and go -/

/-- The number of bytes that edits put in. -/
def added : List Edit → Nat
  | [] => 0
  | e :: edits => byteLength e.newText.toList + added edits

/-- The number of bytes that edits take out. -/
def removed : List Edit → Nat
  | [] => 0
  | e :: edits => e.range.stop - e.range.start + removed edits

/-- Where an offset comes to stand behind edits. -/
def shifted (before : List Edit) (offset : Nat) : Nat := offset + added before - removed before

/-- Where a range is found after edits. An edit before it moves both ends, one inside it the end
only. What is inserted at either end, or where an empty range stands, is outside. -/
def moved (edits : List Edit) (r : Range) : Range where
  start := shifted
    (edits.filter fun e => e.range.stop ≤ r.start && e.range.start < r.stop) r.start
  stop := shifted (edits.filter fun e => e.range.start < r.stop) r.stop

@[simp] theorem added_nil : added [] = 0 := rfl

@[simp] theorem removed_nil : removed [] = 0 := rfl

@[simp] theorem added_cons (e : Edit) (edits : List Edit) :
    added (e :: edits) = byteLength e.newText.toList + added edits := rfl

@[simp] theorem removed_cons (e : Edit) (edits : List Edit) :
    removed (e :: edits) = e.range.stop - e.range.start + removed edits := rfl

@[simp] theorem added_append (a b : List Edit) : added (a ++ b) = added a + added b := by
  induction a with
  | nil => simp
  | cons e a ih => rw [List.cons_append, added_cons, added_cons, ih, Nat.add_assoc]

@[simp] theorem removed_append (a b : List Edit) : removed (a ++ b) = removed a + removed b := by
  induction a with
  | nil => simp
  | cons e a ih => rw [List.cons_append, removed_cons, removed_cons, ih, Nat.add_assoc]

theorem shifted_perm {a b : List Edit} (h : a.Perm b) (offset : Nat) :
    shifted a offset = shifted b offset := by
  have hsame : added a = added b ∧ removed a = removed b := by
    induction h with
    | nil => exact ⟨rfl, rfl⟩
    | cons e _ ih => simp [ih]
    | swap d e l => simp only [added_cons, removed_cons]; omega
    | trans _ _ ih ih' => exact ⟨ih.1.trans ih'.1, ih.2.trans ih'.2⟩
  rw [shifted, shifted, hsame.1, hsame.2]

theorem moved_perm {a b : List Edit} (h : a.Perm b) (r : Range) : moved a r = moved b r := by
  unfold moved
  rw [shifted_perm (h.filter _), shifted_perm (h.filter _)]

/-! ## Splicing -/

/-- `Spliced offset edits text text'`: the edits, in the order of their places, make `text'` of
`text`, which starts at `offset` of the text they refer to. -/
inductive Spliced : Nat → List Edit → List Char → List Char → Prop where
  | done (offset : Nat) (text : List Char) : Spliced offset [] text text
  | step {offset : Nat} {e : Edit} {edits : List Edit} {gap old text text' : List Char} :
      offset + byteLength gap = e.range.start →
      e.range.start + byteLength old = e.range.stop →
      Spliced e.range.stop edits text text' →
      Spliced offset (e :: edits) (gap ++ (old ++ text)) (gap ++ (e.newText.toList ++ text'))

namespace Spliced

variable {offset : Nat} {edits : List Edit} {text text' : List Char}

theorem byteLength_eq (h : Spliced offset edits text text') :
    byteLength text' + removed edits = byteLength text + added edits := by
  induction h with
  | done => simp
  | step hg ho _ ih =>
    simp only [byteLength_append, removed_cons, added_cons]
    omega

theorem le_start (h : Spliced offset edits text text') :
    ∀ e ∈ edits, offset ≤ e.range.start ∧ e.range.start ≤ e.range.stop := by
  induction h with
  | done => simp
  | step hg ho _ ih =>
    intro e he
    rcases List.mem_cons.mp he with rfl | he
    · omega
    · have := ih e he
      omega

theorem pairwise (h : Spliced offset edits text text') :
    edits.Pairwise fun d e => d.range.stop ≤ e.range.start := by
  induction h with
  | done => exact List.Pairwise.nil
  | step hg ho h ih => exact List.Pairwise.cons (fun e he => (h.le_start e he).1) ih

/-- Edits that write something leave something. -/
theorem ne_nil (h : Spliced offset edits text text') (ht : text ≠ [])
    (he : ∀ e ∈ edits, e.newText.toList ≠ []) : text' ≠ [] := by
  cases h with
  | done => exact ht
  | @step _ e _ _ _ _ _ _ _ _ => simp [he e List.mem_cons_self]

/-- An edit of a whole text leaves nothing but its own. -/
theorem single {e : Edit} (h : Spliced e.range.start [e] text text')
    (hl : e.range.start + byteLength text = e.range.stop) : text' = e.newText.toList := by
  cases h with
  | @step _ _ _ gap old rest rest' hg ho h =>
    simp only [byteLength_append] at hl
    obtain rfl : gap = [] := byteLength_eq_zero.mp (by omega)
    obtain rfl : rest = [] := byteLength_eq_zero.mp (by omega)
    cases h
    simp

/-- A text can be cut where no edit reaches across. -/
theorem split {es fs : List Edit} {u q w : List Char} {k b : Nat}
    (h : Spliced k (es ++ fs) (u ++ q) w) (hb : k + byteLength u = b)
    (hes : ∀ e ∈ es, e.range.stop ≤ b) (hfs : ∀ e ∈ fs, b ≤ e.range.start) :
    ∃ u' q', w = u' ++ q' ∧ Spliced k es u u' ∧ Spliced b fs q q' := by
  induction es generalizing k u w with
  | nil =>
    rw [List.nil_append] at h
    generalize ht : u ++ q = t at h
    cases h with
    | done => exact ⟨u, q, ht.symm, .done .., .done ..⟩
    | @step _ e fs gap old t t' hg ho h =>
      have := hfs e List.mem_cons_self
      obtain ⟨m, rfl, rfl⟩ := append_eq_append_of_byteLength_le ht (by omega)
      rw [byteLength_append] at hg
      exact ⟨u, m ++ (e.newText.toList ++ t'), by simp, .done .., .step (by omega) ho h⟩
  | cons e es ih =>
    generalize ht : u ++ q = t at h
    cases h with
    | @step _ _ _ gap old t t' hg ho h =>
      have := hes e List.mem_cons_self
      obtain ⟨m, rfl, rfl⟩ := append_eq_append_of_byteLength_le
        (show (gap ++ old) ++ t = u ++ q by simpa using ht.symm)
        (by rw [byteLength_append]; omega)
      simp only [byteLength_append] at hb
      obtain ⟨m', q', rfl, hm, hq⟩ := ih h (by omega)
        (fun d hd => hes d (List.mem_cons_of_mem _ hd))
      refine ⟨gap ++ (e.newText.toList ++ m'), q', by simp, ?_, hq⟩
      rw [List.append_assoc]
      exact .step hg ho hm

/-- An edit starts at an offset of the text. -/
theorem front {es fs : List Edit} {e : Edit} {k : Nat}
    (h : Spliced k (es ++ e :: fs) text text') :
    ∃ u q, text = u ++ q ∧ k + byteLength u = e.range.start := by
  induction es generalizing k text text' with
  | nil =>
    cases h with
    | @step _ _ _ gap old t t' hg ho h => exact ⟨gap, old ++ t, rfl, hg⟩
  | cons d es ih =>
    cases h with
    | @step _ _ _ gap old t t' hg ho h =>
      obtain ⟨u, q, rfl, hu⟩ := ih h
      exact ⟨gap ++ (old ++ u), q, by simp, by simp only [byteLength_append]; omega⟩

/-- The edits fall into those that stop before a certain one starts, and the rest. -/
theorem stop_le_start {es fs : List Edit} {e : Edit} {k : Nat}
    (h : Spliced k (es ++ e :: fs) text text') :
    (∀ d ∈ es, d.range.stop ≤ e.range.start) ∧ ∀ d ∈ e :: fs, e.range.start ≤ d.range.start := by
  obtain ⟨-, hfs, hlt⟩ := List.pairwise_append.mp h.pairwise
  have he := h.le_start e (by simp)
  refine ⟨fun d hd => hlt d hd e List.mem_cons_self, fun d hd => ?_⟩
  rcases List.mem_cons.mp hd with rfl | hd
  · exact Nat.le_refl _
  · have := (List.pairwise_cons.mp hfs).1 d hd
    omega

/-- The text of an edit is found where the edits before it put it. -/
theorem landing {es fs : List Edit} {e : Edit} (h : Spliced 0 (es ++ e :: fs) text text') :
    StandsAt text' (shifted es e.range.start) e.newText.toList := by
  obtain ⟨u, q, rfl, hu⟩ := h.front
  obtain ⟨u', q', rfl, h1, h2⟩ := h.split hu h.stop_le_start.1 h.stop_le_start.2
  have hl := h1.byteLength_eq
  cases h2 with
  | @step _ _ _ gap old t t' hg ho h2 =>
    obtain rfl : gap = [] := byteLength_eq_zero.mp (by omega)
    exact ⟨u', t', by simp, by unfold shifted; omega⟩

/-- Behind more edits an offset further on comes to stand further on. -/
theorem shifted_le {es fs gs : List Edit} {part : List Char} {b v : Nat}
    (h : Spliced 0 (es ++ (fs ++ gs)) text text') (hb : StandsAt text b part)
    (hv : b + byteLength part = v) (hes : ∀ e ∈ es, e.range.stop ≤ b)
    (hfs : ∀ e ∈ fs, b ≤ e.range.start ∧ e.range.stop ≤ v) (hgs : ∀ e ∈ gs, v ≤ e.range.start) :
    shifted es b ≤ shifted (es ++ fs) v := by
  obtain ⟨u, q, rfl, hu⟩ := hb
  obtain ⟨u', w, rfl, h1, h2⟩ := h.split (b := b) (by omega) hes (fun e he => by
    rcases List.mem_append.mp he with he | he
    · exact (hfs e he).1
    · have := hgs e he
      omega)
  obtain ⟨g', q', rfl, h3, -⟩ := h2.split hv (fun e he => (hfs e he).2) hgs
  have := h1.byteLength_eq
  have := h3.byteLength_eq
  simp only [shifted, added_append, removed_append]
  omega

end Spliced

/-! ## Carrying out separate edits -/

/-- Edits keep out of each other's way: of two of them the one ends before the other starts, and
two that start at one place are in their order. -/
def Separate (edits : List Edit) : Prop :=
  edits.Pairwise fun d e => d.range.stop ≤ e.range.start ∨
    (e.range.stop ≤ d.range.start ∧ e.range.start < d.range.start)

/-- The edits in the order of their places. -/
def inOrder (edits : List Edit) : List Edit :=
  edits.mergeSort fun a b => a.range.start ≤ b.range.start

theorem inOrder_perm (edits : List Edit) : (inOrder edits).Perm edits := List.mergeSort_perm ..

/-- What holds of any two members of a list in their order, with their positions. -/
theorem pairwise_zipIdx {α : Type} {R : α → α → Prop} {l : List α} (h : l.Pairwise R) (k : Nat) :
    (l.zipIdx k).Pairwise fun p q => p.2 < q.2 ∧ R p.1 q.1 := by
  induction h generalizing k with
  | nil => simp
  | cons ha _ ih =>
    rw [List.zipIdx_cons]
    refine List.Pairwise.cons (fun q hq => ?_) (ih (k + 1))
    exact ⟨List.le_snd_of_mem_zipIdx hq, ha _ (List.fst_mem_of_mem_zipIdx hq)⟩

/-- Separate edits do not reach across the start of the next one in order. The sort keeps the order
of edits that start at one place, so their positions in the list are kept in sight. -/
theorem inOrder_pairwise {edits : List Edit} (hs : Separate edits)
    (hr : ∀ e ∈ edits, e.range.start ≤ e.range.stop) :
    (inOrder edits).Pairwise fun d e => d.range.stop ≤ e.range.start := by
  have stable : (edits.zipIdx.mergeSort (List.zipIdxLE fun a b =>
        decide (a.range.start ≤ b.range.start))).Pairwise fun p q =>
      List.zipIdxLE (fun a b => decide (a.range.start ≤ b.range.start)) p q = true :=
    List.pairwise_mergeSort (List.zipIdxLE_trans (by simp; omega))
      (List.zipIdxLE_total (by simp; omega)) edits.zipIdx
  have apart : edits.zipIdx.Pairwise fun p q =>
      (p.2 < q.2 → p.1.range.stop ≤ q.1.range.start ∨
        (q.1.range.stop ≤ p.1.range.start ∧ q.1.range.start < p.1.range.start)) ∧
      (q.2 < p.2 → q.1.range.stop ≤ p.1.range.start ∨
        (p.1.range.stop ≤ q.1.range.start ∧ p.1.range.start < q.1.range.start)) ∧ p.2 ≠ q.2 :=
    (pairwise_zipIdx hs 0).imp fun h => ⟨fun _ => h.2, fun _ => by omega, by omega⟩
  rw [← (List.mergeSort_perm edits.zipIdx _).pairwise_iff
    (fun h => ⟨h.2.1, h.1, h.2.2.symm⟩)] at apart
  unfold inOrder
  rw [← List.mergeSort_zipIdx, List.pairwise_map]
  refine (stable.and apart).imp_of_mem fun {p q} hp hq h => ?_
  have hp := hr p.1 (List.fst_mem_of_mem_zipIdx (List.mem_mergeSort.mp hp))
  have hq := hr q.1 (List.fst_mem_of_mem_zipIdx (List.mem_mergeSort.mp hq))
  obtain ⟨hle, h1, h2, hne⟩ := h
  simp only [List.zipIdxLE, decide_eq_true_eq] at hle
  split at hle
  · split at hle
    · have := h1 (by simp at hle; omega)
      omega
    · rcases Nat.lt_or_gt_of_ne hne with h | h
      · have := h1 h
        omega
      · have := h2 h
        omega
  · cases hle

/-- Edits in order that fit a text can be spliced into it. -/
theorem exists_spliced {text : List Char} {edits : List Edit}
    (hp : edits.Pairwise fun d e => d.range.stop ≤ e.range.start)
    (hf : ∀ e ∈ edits, (slice text e.range).isSome) {f r : List Char} (ht : text = f ++ r)
    (hk : ∀ e ∈ edits, byteLength f ≤ e.range.start) :
    ∃ r', Spliced (byteLength f) edits r r' := by
  induction edits generalizing f r with
  | nil => exact ⟨r, .done ..⟩
  | cons e edits ih =>
    obtain ⟨he, hp⟩ := List.pairwise_cons.mp hp
    obtain ⟨old, ho⟩ := Option.isSome_iff_exists.mp (hf e List.mem_cons_self)
    obtain ⟨⟨f', b, hfb, hfl⟩, hs⟩ := slice_eq_some.mp ho
    obtain ⟨gap, rfl, rfl⟩ := append_eq_append_of_byteLength_le (ht.symm.trans hfb)
      (by have := hk e List.mem_cons_self; omega)
    rw [byteLength_append] at hfl
    obtain ⟨b', hb⟩ := ih hp (fun d hd => hf d (List.mem_cons_of_mem _ hd))
      (f := f ++ gap ++ old) (r := b) (by simpa using ht)
      (fun d hd => by have := he d hd; simp only [byteLength_append]; omega)
    rw [show byteLength (f ++ gap ++ old) = e.range.stop by
      simp only [byteLength_append]; omega] at hb
    exact ⟨_, .step hfl hs.symm hb⟩

theorem foldrM_apply {offset : Nat} {edits : List Edit} {r r' : List Char}
    (h : Spliced offset edits r r') {f : List Char} (hf : byteLength f = offset) :
    edits.foldrM (fun e t => e.apply t) (f ++ r) = some (f ++ r') := by
  induction h generalizing f with
  | done => rfl
  | @step offset e edits gap old text text' hg ho h ih =>
    have hrest := ih (f := f ++ gap ++ old) (by simp only [byteLength_append]; omega)
    simp only [List.append_assoc] at hrest
    rw [List.foldrM_cons, hrest, Option.bind_eq_bind, Option.bind_some, apply, if_pos (by omega)]
    have htake : takeBytes e.range.start (f ++ (gap ++ (old ++ text'))) = some (f ++ gap) :=
      takeBytes_eq_some.mpr ⟨old ++ text', by simp, by rw [byteLength_append]; omega⟩
    have hdrop : dropBytes e.range.stop (f ++ (gap ++ (old ++ text'))) = some text' :=
      dropBytes_eq_some.mpr ⟨f ++ (gap ++ old), by simp, by simp only [byteLength_append]; omega⟩
    simp [htake, hdrop]

theorem applyAll_of_spliced {edits : List Edit} {text text' : List Char}
    (h : Spliced 0 (inOrder edits) text text') : applyAll edits text = some text' := by
  rw [applyAll, show ordered edits = (inOrder edits).reverse from rfl, List.foldlM_reverse]
  exact foldrM_apply h (f := []) rfl

/-- Separate edits that fit a text can all be carried out. -/
theorem applyAll_spliced {edits : List Edit} {text : List Char} (hs : Separate edits)
    (hf : ∀ e ∈ edits, (slice text e.range).isSome) :
    ∃ text', Spliced 0 (inOrder edits) text text' ∧ applyAll edits text = some text' := by
  obtain ⟨text', h⟩ := exists_spliced
    (inOrder_pairwise hs fun e he => start_le_stop_of_slice (hf e he))
    (fun e he => hf e ((inOrder_perm edits).mem_iff.mp he)) (f := []) rfl (by simp)
  exact ⟨text', h, applyAll_of_spliced h⟩

/-! ## Where a range is found afterwards -/

/-- Each edit lies apart from a range or inside it. -/
def Respects (edits : List Edit) (r : Range) : Prop :=
  ∀ e ∈ edits, e.range.Apart r ∨ e.range.Inside r

/-- Whether an edit is neither before a range nor behind it. -/
def enters (r : Range) (e : Edit) : Bool :=
  !decide (e.range.stop ≤ r.start) && e.range.start < r.stop

theorem enters_of_apart {r : Range} {e : Edit} (h : e.range.Apart r) : enters r e = false := by
  unfold Range.Apart at h
  simp only [enters, Bool.and_eq_false_iff, Bool.not_eq_false', decide_eq_true_eq,
    decide_eq_false_iff_not]
  omega

theorem enters_of_inside {r : Range} {e : Edit} (h : e.range.Inside r)
    (hlt : e.range.start < e.range.stop) : enters r e = true := by
  unfold Range.Inside at h
  simp only [enters, Bool.and_eq_true, Bool.not_eq_true', decide_eq_false_iff_not,
    decide_eq_true_eq]
  omega

/-- The edits that are neither before a range nor behind it. -/
def within (edits : List Edit) (r : Range) : List Edit := edits.filter (enters r)

theorem Respects.perm {a b : List Edit} {r : Range} (h : a.Perm b) (ha : Respects a r) :
    Respects b r := fun e he => ha e (h.mem_iff.mpr he)

/-- A list whose members with a property come first. -/
theorem filter_append_filter_not {α : Type} {p : α → Bool} {l : List α}
    (h : l.Pairwise fun a b => p b = true → p a = true) :
    l.filter p ++ l.filter (fun a => !p a) = l := by
  induction h with
  | nil => rfl
  | @cons a l ha _ ih =>
    by_cases hp : p a = true
    · simpa [hp] using ih
    · have hnone : ∀ b ∈ l, p b = false := fun b hb => by
        simpa using fun hb' => hp (ha b hb hb')
      have hfalse : l.filter p = [] := by simpa using hnone
      simpa [hp, hfalse] using hnone

namespace Spliced

variable {edits : List Edit} {text text' : List Char}

/-- The edits that start before an offset come first. -/
theorem filter_start (h : Spliced 0 edits text text') (b : Nat) :
    edits.filter (fun e => e.range.start < b) ++
      edits.filter (fun e => !decide (e.range.start < b)) = edits := by
  refine filter_append_filter_not (h.pairwise.imp_of_mem fun {d e} hd he hde => ?_)
  have := h.le_start d hd
  simp only [decide_eq_true_eq]
  omega

/-- What edits make of a range that none of them cuts is found at the range moved by them. -/
theorem slice_moved (h : Spliced 0 edits text text') {r : Range} {part : List Char}
    (hr : slice text r = some part) (hc : Respects edits r) :
    ∃ part', Spliced r.start (within edits r) part part' ∧
      slice text' (moved edits r) = some part' := by
  obtain ⟨⟨p, q, rfl, hp⟩, hs⟩ := slice_eq_some.mp hr
  have hle := h.le_start
  have hsplit := h.filter_start r.stop
  have hin : ∀ e ∈ edits.filter (fun e => e.range.start < r.stop),
      e.range.stop ≤ r.start ∨ e.range.Inside r := fun e he => by
    obtain ⟨he, hlt⟩ := List.mem_filter.mp he
    have := of_decide_eq_true hlt
    exact (hc e he).imp_left fun ha => by unfold Range.Apart at ha; omega
  rw [← hsplit] at h
  -- What starts at or behind the end of the range is cut off first, then what stops before it.
  obtain ⟨u, q', rfl, h, -⟩ := Spliced.split (u := p ++ part) (q := q) (by simpa using h)
    (b := r.stop) (by rw [byteLength_append]; omega)
    (fun e he => by
      have := hin e he
      unfold Range.Inside at this
      omega)
    (fun e he => by simpa using (List.mem_filter.mp he).2)
  have hbefore : (edits.filter fun e => e.range.start < r.stop).filter
        (fun e => e.range.stop ≤ r.start) ++
      (edits.filter fun e => e.range.start < r.stop).filter
        (fun e => !decide (e.range.stop ≤ r.start)) =
      edits.filter fun e => e.range.start < r.stop := by
    refine filter_append_filter_not (h.pairwise.imp_of_mem fun {d e} hd he hde => ?_)
    have := h.le_start e he
    simp only [decide_eq_true_eq]
    omega
  have hstop := h.byteLength_eq
  rw [← hbefore] at h
  obtain ⟨p', part', rfl, h1, h2⟩ := h.split (b := r.start) (by omega)
    (fun e he => by simpa using (List.mem_filter.mp he).2)
    (fun e he => by
      obtain ⟨he, hn⟩ := List.mem_filter.mp he
      have hn : ¬ e.range.stop ≤ r.start := by simpa using hn
      have := hin e he
      unfold Range.Inside at this
      omega)
  rw [List.filter_filter] at h1 h2
  have hstart := h1.byteLength_eq
  simp only [byteLength_append] at hstop
  refine ⟨part', h2, slice_eq_some.mpr ⟨⟨p', q', by simp, ?_⟩, ?_⟩⟩
  · simp only [moved, shifted]
    omega
  · simp only [moved, shifted]
    omega

/-- A range that all edits keep away from is found again as it was. -/
theorem slice_moved_of_apart (h : Spliced 0 edits text text') {r : Range} {part : List Char}
    (hr : slice text r = some part) (hc : ∀ e ∈ edits, e.range.Apart r) :
    slice text' (moved edits r) = some part := by
  obtain ⟨part', hp, hs⟩ := h.slice_moved hr fun e he => .inl (hc e he)
  have hnone : within edits r = [] :=
    List.filter_eq_nil_iff.mpr fun e he => by simp [enters_of_apart (hc e he)]
  rw [hnone] at hp
  cases hp
  exact hs

/-- A range before a place where the edits can be cut in two ends before that place afterwards. -/
theorem moved_stop_le_shifted {es fs : List Edit} (h : Spliced 0 (es ++ fs) text text')
    {r : Range} (hr : (slice text r).isSome) (hc : Respects (es ++ fs) r) {v : Nat}
    (hv : StandsAt text v []) (hrv : r.stop ≤ v) (hes : ∀ e ∈ es, e.range.stop ≤ v)
    (hfs : ∀ e ∈ fs, v ≤ e.range.start) :
    (moved (es ++ fs) r).stop ≤ shifted es v := by
  obtain ⟨a, ha⟩ := Option.isSome_iff_exists.mp hr
  obtain ⟨ha, har⟩ := slice_eq_some.mp ha
  obtain ⟨gap, hg, hgv⟩ := ha.between hv (by omega)
  rw [← har] at hg hgv
  have hsplit : es.filter (fun e => e.range.start < r.stop) ++
      es.filter (fun e => !decide (e.range.start < r.stop)) = es := by
    refine filter_append_filter_not ((List.pairwise_append.mp h.pairwise).1.imp_of_mem
      fun {d e} hd he hde => ?_)
    have := h.le_start d (List.mem_append_left _ hd)
    simp only [decide_eq_true_eq]
    omega
  have hbefore : (es ++ fs).filter (fun e => e.range.start < r.stop) =
      es.filter fun e => e.range.start < r.stop := by
    have hnone : fs.filter (fun e => e.range.start < r.stop) = [] :=
      List.filter_eq_nil_iff.mpr fun e he => by
        have := hfs e he
        simp
        omega
    rw [List.filter_append, hnone, List.append_nil]
  rw [← hsplit, List.append_assoc] at h
  have hle := h.shifted_le hg hgv
    (fun e he => by
      obtain ⟨he, hlt⟩ := List.mem_filter.mp he
      have := of_decide_eq_true hlt
      have := hc e (List.mem_append_left _ he)
      unfold Range.Apart Range.Inside at this
      omega)
    (fun e he => by
      obtain ⟨he, hlt⟩ := List.mem_filter.mp he
      have := hes e he
      simp only [Bool.not_eq_true', decide_eq_false_iff_not] at hlt
      omega) hfs
  rw [hsplit] at hle
  simpa only [moved, hbefore] using hle

/-- Ranges keep their order. -/
theorem moved_stop_le_start (h : Spliced 0 edits text text') {r s : Range}
    (hr : (slice text r).isSome) (hs : (slice text s).isSome) (hcr : Respects edits r)
    (hcs : Respects edits s) (hrs : r.stop ≤ s.start) :
    (moved edits r).stop ≤ (moved edits s).start := by
  obtain ⟨b, hb⟩ := Option.isSome_iff_exists.mp hs
  obtain ⟨hb, hbs⟩ := slice_eq_some.mp hb
  have hle := h.le_start
  have hsplit : edits.filter (fun e => e.range.stop ≤ s.start && e.range.start < s.stop) ++
      edits.filter (fun e => !(e.range.stop ≤ s.start && e.range.start < s.stop)) = edits := by
    refine filter_append_filter_not (h.pairwise.imp_of_mem fun {d e} hd he hde => ?_)
    have := hle d hd
    have := hle e he
    simp only [Bool.and_eq_true, decide_eq_true_eq]
    omega
  have hlt := moved_stop_le_shifted (by rwa [hsplit]) hr (by rwa [hsplit])
    (StandsAt.left (a := []) (b := b) hb) hrs
    (fun e he => by
      have := (List.mem_filter.mp he).2
      simp only [Bool.and_eq_true, decide_eq_true_eq] at this
      omega)
    (fun e he => by
      obtain ⟨he, hn⟩ := List.mem_filter.mp he
      have := hle e he
      have := hcs e he
      unfold Range.Apart Range.Inside at this
      simp only [Bool.not_eq_true', Bool.and_eq_false_iff, decide_eq_false_iff_not] at hn
      omega)
  rwa [hsplit] at hlt

/-- The text of an edit is found behind every range before it. -/
theorem moved_stop_le_landing {es fs : List Edit} {e : Edit}
    (h : Spliced 0 (es ++ e :: fs) text text') {r : Range} (hr : (slice text r).isSome)
    (hc : Respects (es ++ e :: fs) r) (hre : r.stop ≤ e.range.start) :
    (moved (es ++ e :: fs) r).stop ≤ shifted es e.range.start := by
  obtain ⟨u, q, rfl, hu⟩ := h.front
  exact h.moved_stop_le_shifted hr hc ⟨u, q, rfl, by omega⟩ hre h.stop_le_start.1 h.stop_le_start.2

end Spliced

end Edit

end Nameplate.Text
