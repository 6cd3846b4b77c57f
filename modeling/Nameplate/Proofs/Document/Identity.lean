import Nameplate.Proofs.Document.History

/-!
# When an analysis is handed out again

An analysis that a store has made is handed out again until its document is touched, and never
afterwards. Analyses are told apart by their numbers.

* `Store.kept?`: the analysis that a store keeps for a document;
* `Store.kept?_step`: what is kept was kept before, or was made last, under a new number;
* `Given`: the number of an analysis belongs to it alone, and one document at most keeps it;
* `Given.step`, `Given.touched`: that stays so, until the document is touched and drops it;
* `Store.given_run`: it is so for all that is kept after a history;
* `Store.analyze_again`, `Store.analyze_numbered`: when a later analysis is the same object.
-/

namespace Nameplate

namespace Store

variable {s : Store} {u : Uri} {a : Made} {op : Operation}

/-! ## What is kept -/

/-- The analysis that is kept for a document. -/
def kept? (s : Store) (u : Uri) : Option Made := (s.get? u).bind fun d => d.document.kept?

/-- What is kept is handed out. -/
theorem analyze_of_kept (h : s.kept? u = some a) : (s.analyze u).1 = some a := by
  obtain ⟨d, hd, ha⟩ := Option.bind_eq_some_iff.mp h
  rw [analyze_fst, hd, Option.map_some, Document.analyze_of_kept ha]

/-- What is handed out is kept. -/
theorem kept?_analyze (s : Store) (u : Uri) : (s.analyze u).2.kept? u = (s.analyze u).1 := by
  rw [kept?, get?_analyze_self, analyze_fst]
  cases s.get? u with
  | none => rfl
  | some d => exact d.document.kept?_analyze s.next

/-- What is handed out and was not kept has the next number. -/
theorem number_analyze (h : s.kept? u = none) (ha : (s.analyze u).1 = some a) :
    a.number = s.next := by
  rw [analyze_fst] at ha
  obtain ⟨d, hd, rfl⟩ := Option.map_eq_some_iff.mp ha
  rw [kept?, hd] at h
  exact Document.number_analyze h s.next

/-- The numbers that are still to be given are higher than those that were. -/
theorem number_lt_next (h : (s.analyze u).1 = some a) : a.number < (s.analyze u).2.next := by
  unfold analyze at h ⊢
  split at h
  · obtain rfl := Option.some.inj h
    exact Nat.lt_of_lt_of_le (Nat.lt_succ_self _) (Nat.le_max_right _ _)
  · cases h

theorem next_le_step (s : Store) (op : Operation) : s.next ≤ (s.step op).2.next := by
  cases op with
  | analyze u =>
    simp only [step, analyze]
    split
    · exact Nat.le_max_left _ _
    · exact Nat.le_refl _
  | change u given text =>
    simp only [step, change]
    split <;> exact Nat.le_refl _
  | _ => exact Nat.le_refl _

/-- What touches a document drops what is kept for it. -/
theorem kept?_of_touches (h : op.Touches u) : (s.step op).2.kept? u = none := by
  obtain rfl := h.uri_eq
  rw [kept?, get?_step_self]
  cases op with
  | opening u given text language => rfl
  | change u given text => simp [Operation.after, Document.kept?, Document.replace]
  | close u => rfl
  | analyze u => exact absurd h (Operation.not_touches_analyze u _)
  | _ => simp [Operation.Touches, Operation.Opens, Operation.Changes, Operation.Closes] at h

/-- An operation that neither touches nor analyses a document leaves what is kept for it. -/
theorem kept?_of_idle (ht : ¬ op.Touches u) (ha : op ≠ .analyze u) :
    (s.step op).2.kept? u = s.kept? u := by
  by_cases hu : op.uri = u
  · cases op with
    | version v => rfl
    | state v => rfl
    | analyze v => exact absurd (congrArg Operation.analyze hu) ha
    | _ =>
      exact absurd hu (by simpa [Operation.Touches, Operation.Opens, Operation.Changes,
        Operation.Closes, Operation.uri] using ht)
  · rw [kept?, get?_step_of_ne _ hu, kept?]

/-- What is kept stays kept until its document is touched. -/
theorem kept?_of_not_touches (h : s.kept? u = some a) (ht : ¬ op.Touches u) :
    (s.step op).2.kept? u = some a := by
  by_cases ha : op = .analyze u
  · rw [ha]
    exact (s.kept?_analyze u).trans (analyze_of_kept h)
  · rw [kept?_of_idle ht ha, h]

/-- What is kept after an operation was kept before, or the operation has made it under a number
that was not given before. -/
theorem kept?_step (h : (s.step op).2.kept? u = some a) :
    s.kept? u = some a ∨
      op = .analyze u ∧ s.next ≤ a.number ∧ a.number < (s.step op).2.next := by
  by_cases ht : op.Touches u
  · rw [kept?_of_touches ht] at h
    cases h
  by_cases ha : op = .analyze u
  · subst ha
    have hgiven : (s.analyze u).1 = some a := (s.kept?_analyze u).symm.trans h
    cases hkept : s.kept? u with
    | none =>
      exact .inr ⟨rfl, Nat.le_of_eq (number_analyze hkept hgiven).symm, number_lt_next hgiven⟩
    | some b => exact .inl ((analyze_of_kept hkept).symm.trans hgiven)
  · exact .inl ((kept?_of_idle ht ha).symm.trans h)

end Store

/-! ## Numbers -/

/-- An analysis that was handed out. No other one has its number, and it is kept for one document,
or for none. -/
structure Given (a : Made) (holder : Option Uri) (s : Store) : Prop where
  number_lt : a.number < s.next
  kept : ∀ u ∈ holder, s.kept? u = some a
  only : ∀ v b, s.kept? v = some b → b.number = a.number → v ∈ holder

namespace Given

variable {s : Store} {a : Made} {holder : Option Uri} {u : Uri} {op : Operation}

/-- A number that was given is not given to another analysis. -/
theorem kept_before (h : Given a holder s) {v : Uri} {b : Made}
    (hb : (s.step op).2.kept? v = some b) (hn : b.number = a.number) : s.kept? v = some b := by
  have hlt := h.number_lt
  rcases Store.kept?_step hb with hb | ⟨-, hle, -⟩
  · exact hb
  · omega

theorem step (h : Given a holder s) (hop : ∀ u ∈ holder, ¬ op.Touches u) :
    Given a holder (s.step op).2 where
  number_lt := Nat.lt_of_lt_of_le h.number_lt (s.next_le_step op)
  kept u hu := Store.kept?_of_not_touches (h.kept u hu) (hop u hu)
  only v b hb hn := h.only v b (h.kept_before hb hn) hn

/-- A document that is touched does not keep its analysis, and no other one does. -/
theorem touched (h : Given a (some u) s) (hop : op.Touches u) : Given a none (s.step op).2 where
  number_lt := Nat.lt_of_lt_of_le h.number_lt (s.next_le_step op)
  kept := nofun
  only v b hb hn := by
    obtain rfl := Option.some.inj (h.only v b (h.kept_before hb hn) hn)
    rw [Store.kept?_of_touches hop] at hb
    cases hb

theorem run (h : Given a holder s) {ops : List Operation}
    (hops : ∀ op ∈ ops, ∀ u ∈ holder, ¬ op.Touches u) : Given a holder (s.run ops) := by
  induction ops generalizing s with
  | nil => exact h
  | cons op ops ih =>
    obtain ⟨hop, hrest⟩ := List.forall_mem_cons.mp hops
    exact ih (h.step hop) hrest

theorem run_touched (h : Given a (some u) s) {ops : List Operation}
    (hops : ∃ op ∈ ops, op.Touches u) : Given a none (s.run ops) := by
  induction ops generalizing s with
  | nil => simp at hops
  | cons op ops ih =>
    by_cases hop : op.Touches u
    · exact (h.touched hop).run fun _ _ _ hnone => nomatch hnone
    · refine ih (h.step fun v hv => Option.some.inj hv ▸ hop) ?_
      simpa [hop] using hops

/-- What is handed out later under the number is the same, and its document keeps it. -/
theorem analyze (h : Given a holder s) {v : Uri} {b : Made} (hb : (s.analyze v).1 = some b)
    (hn : b.number = a.number) : v ∈ holder ∧ b = a := by
  have hafter : Given a holder (s.analyze v).2 :=
    h.step fun u _ => Operation.not_touches_analyze v u
  have hkept : (s.analyze v).2.kept? v = some b := (s.kept?_analyze v).trans hb
  have hholder := hafter.only v b hkept hn
  exact ⟨hholder, Option.some.inj (hkept.symm.trans (hafter.kept v hholder))⟩

end Given

namespace Store

/-- All that is kept after a history has a number of its own. -/
theorem given_run (ops : List Operation) {u : Uri} {a : Made}
    (h : (Store.run {} ops).kept? u = some a) : Given a (some u) (Store.run {} ops) := by
  induction ops using List.reverseRecOn generalizing u a with
  | nil => cases h
  | append_singleton ops op ih =>
    rw [run_append, run_singleton] at h ⊢
    have hnot : ¬ op.Touches u := fun ht => by
      rw [kept?_of_touches ht] at h
      cases h
    rcases kept?_step h with hbefore | ⟨rfl, hle, hlt⟩
    · exact (ih hbefore).step fun v hv => Option.some.inj hv ▸ hnot
    · refine ⟨hlt, fun v hv => Option.some.inj hv ▸ h, fun v b hb hn => ?_⟩
      rcases kept?_step hb with hold | ⟨hsame, -, -⟩
      · have := (ih hold).number_lt
        omega
      · exact congrArg some (Operation.analyze.inj hsame)

/-- What an analysis gives has a number of its own. -/
theorem given_analyze {ops : List Operation} {u : Uri} {a : Made}
    (h : ((Store.run {} ops).analyze u).1 = some a) :
    Given a (some u) (Store.run {} (ops ++ [.analyze u])) := by
  refine given_run _ ?_
  rw [run_append, run_singleton]
  exact (kept?_analyze ..).trans h

variable {ops between : List Operation} {u v : Uri} {a b : Made}

/-- Two analyses of a document give the same object exactly if nothing touched it in between. -/
theorem analyze_again (h : ((Store.run {} ops).analyze u).1 = some a)
    (between : List Operation) :
    ((Store.run {} (ops ++ .analyze u :: between)).analyze u).1 = some a ↔
      ∀ op ∈ between, ¬ op.Touches u := by
  have hgiven := given_analyze h
  rw [List.append_cons, run_append]
  constructor
  · intro hlater
    by_contra htouched
    push Not at htouched
    have hgone := (hgiven.run_touched htouched).analyze hlater rfl
    exact nomatch hgone.1
  · intro hquiet
    have hkept : Given a (some u) ((Store.run {} (ops ++ [.analyze u])).run between) :=
      hgiven.run fun op hop v hv => Option.some.inj hv ▸ hquiet op hop
    exact analyze_of_kept (hkept.kept u rfl)

/-- Two analyses, of whatever documents, give the same object if they give the same number. -/
theorem analyze_numbered (h : ((Store.run {} ops).analyze u).1 = some a)
    (hlater : ((Store.run {} (ops ++ .analyze u :: between)).analyze v).1 = some b)
    (hnumber : b.number = a.number) : b = a := by
  have hgiven := given_analyze h
  rw [List.append_cons, run_append] at hlater
  by_cases hquiet : ∀ op ∈ between, ¬ op.Touches u
  · have hkept : Given a (some u) ((Store.run {} (ops ++ [.analyze u])).run between) :=
      hgiven.run fun op hop w hw => Option.some.inj hw ▸ hquiet op hop
    exact (hkept.analyze hlater hnumber).2
  · push Not at hquiet
    exact ((hgiven.run_touched hquiet).analyze hlater hnumber).2

end Store

end Nameplate
