import Nameplate.Proofs.Component.Found

/-!
# The first of several

Of several declarations of a name the first one counts, and of several statements that give a
display name the first one does. This module says what is the first member of a list that has a
property, and which declarations of a file are the first of their names.

* `FirstWhere`: the number of the first member that has a property;
* `firstWhere_of_find?`: what is found is the first;
* `first_of_mem_firstOfEachName`: a declaration that counts is the first of its name;
* `firstOfEachName_ordered`: those that count stand in the order of the first places.
-/

namespace Nameplate

/-! ## The first member of a list -/

/-- The member of a list with a number is the first that has a property. -/
structure FirstWhere {α : Type} (p : α → Prop) (xs : List α) (i : Nat) : Prop where
  holds : ∃ x, xs[i]? = some x ∧ p x
  first : ∀ j < i, ∀ x, xs[j]? = some x → ¬ p x

section

variable {α β : Type} {p : α → Prop} {x : α} {xs : List α} {i j : Nat}

@[simp] theorem firstWhere_cons_zero : FirstWhere p (x :: xs) 0 ↔ p x := by
  constructor
  · rintro ⟨⟨y, hy, hp⟩, -⟩
    obtain rfl := Option.some.inj hy
    exact hp
  · exact fun hp => ⟨⟨x, rfl, hp⟩, fun j hj => absurd hj (Nat.not_lt_zero j)⟩

@[simp] theorem firstWhere_cons_succ :
    FirstWhere p (x :: xs) (i + 1) ↔ ¬ p x ∧ FirstWhere p xs i := by
  constructor
  · rintro ⟨hholds, hfirst⟩
    exact ⟨hfirst 0 (Nat.succ_pos i) x rfl, hholds,
      fun j hj y hy => hfirst (j + 1) (Nat.succ_lt_succ hj) y hy⟩
  · rintro ⟨hx, hholds, hfirst⟩
    refine ⟨hholds, fun j hj y hy => ?_⟩
    cases j with
    | zero =>
      obtain rfl := Option.some.inj hy
      exact hx
    | succ j => exact hfirst j (Nat.lt_of_succ_lt_succ hj) y hy

theorem not_firstWhere_nil : ¬ FirstWhere p [] i := by
  rintro ⟨⟨x, hx, -⟩, -⟩
  cases hx

/-- A first member that has the property is the first of all. -/
theorem FirstWhere.eq_zero (h : FirstWhere p (x :: xs) i) (hx : p x) : i = 0 := by
  cases i with
  | zero => rfl
  | succ i => exact absurd hx (firstWhere_cons_succ.mp h).1

/-- Behind a first member that has not the property all numbers are one less. -/
theorem FirstWhere.exists_succ (h : FirstWhere p (x :: xs) i) (hx : ¬ p x) :
    ∃ j, i = j + 1 ∧ FirstWhere p xs j := by
  cases i with
  | zero => exact absurd (firstWhere_cons_zero.mp h) hx
  | succ i => exact ⟨i, rfl, (firstWhere_cons_succ.mp h).2⟩

/-- A property of what members are mapped to. -/
theorem firstWhere_map {f : α → β} {q : β → Prop} (h : ∀ x ∈ xs, p x ↔ q (f x)) :
    FirstWhere p xs i ↔ FirstWhere q (xs.map f) i := by
  induction xs generalizing i with
  | nil => exact iff_of_false not_firstWhere_nil not_firstWhere_nil
  | cons x xs ih =>
    obtain ⟨hx, hxs⟩ := List.forall_mem_cons.mp h
    cases i with
    | zero => rw [List.map_cons, firstWhere_cons_zero, firstWhere_cons_zero, hx]
    | succ i => rw [List.map_cons, firstWhere_cons_succ, firstWhere_cons_succ, hx, ih hxs]

/-- What is found is the first of its kind. -/
theorem firstWhere_of_find? {p : α → Bool} {q : α → Prop} (hpq : ∀ x, p x = true ↔ q x)
    (h : xs.find? p = some x) : ∃ i : Nat, xs[i]? = some x ∧ FirstWhere q xs i := by
  induction xs with
  | nil => cases h
  | cons y xs ih =>
    rw [List.find?_cons] at h
    split at h
    · rename_i hy
      obtain rfl := Option.some.inj h
      exact ⟨0, rfl, firstWhere_cons_zero.mpr ((hpq y).mp hy)⟩
    · rename_i hy
      obtain ⟨i, hi, hfirst⟩ := ih h
      refine ⟨i + 1, hi, firstWhere_cons_succ.mpr ⟨fun hq => ?_, hfirst⟩⟩
      rw [(hpq y).mpr hq] at hy
      cases hy

end

/-! ## The first declaration of a name -/

/-- A member of a list declares a name. -/
def Names {α : Type} (g : α → Option (Declaration × Nat)) (name : String) (x : α) : Prop :=
  ∃ d, g x = some d ∧ d.1.name = name

section

variable {α : Type} {g : α → Option (Declaration × Nat)}

theorem names_of_eq_some {x : α} {d : Declaration × Nat} (h : g x = some d) (name : String) :
    Names g name x ↔ d.1.name = name := by
  simp [Names, h]

theorem not_names_of_eq_none {x : α} (h : g x = none) (name : String) : ¬ Names g name x := by
  simp [Names, h]

/-- A declaration that counts is the first one with its name. -/
theorem first_of_mem_firstOfEachName {xs : List α} {d : Declaration × Nat}
    (h : d ∈ firstOfEachName (xs.filterMap g)) :
    ∃ (i : Nat) (x : α), xs[i]? = some x ∧ g x = some d ∧ FirstWhere (Names g d.1.name) xs i := by
  induction xs with
  | nil => cases h
  | cons x xs ih =>
    cases hx : g x with
    | none =>
      rw [List.filterMap_cons_none hx] at h
      obtain ⟨i, y, hy, hg, hfirst⟩ := ih h
      exact ⟨i + 1, y, hy, hg, firstWhere_cons_succ.mpr ⟨not_names_of_eq_none hx _, hfirst⟩⟩
    | some e =>
      rw [List.filterMap_cons_some hx] at h
      rcases List.mem_cons.mp h with rfl | h
      · exact ⟨0, x, rfl, hx, firstWhere_cons_zero.mpr ((names_of_eq_some hx _).mpr rfl)⟩
      · obtain ⟨h, hne⟩ := List.mem_filter.mp h
        obtain ⟨i, y, hy, hg, hfirst⟩ := ih h
        have hne : d.1.name ≠ e.1.name := by simpa using hne
        exact ⟨i + 1, y, hy, hg,
          firstWhere_cons_succ.mpr ⟨mt (names_of_eq_some hx _).mp hne.symm, hfirst⟩⟩

/-- The declarations that count stand in the order of the first places of their names. -/
theorem firstOfEachName_ordered (xs : List α) :
    (firstOfEachName (xs.filterMap g)).Pairwise fun d e => ∀ i j,
      FirstWhere (Names g d.1.name) xs i → FirstWhere (Names g e.1.name) xs j → i < j := by
  induction xs with
  | nil => exact .nil
  | cons x xs ih =>
    -- what holds of the rest holds behind a place that declares neither name
    have behind {d e : Declaration × Nat} (hd : ¬ Names g d.1.name x) (he : ¬ Names g e.1.name x)
        (h : ∀ i j, FirstWhere (Names g d.1.name) xs i → FirstWhere (Names g e.1.name) xs j →
          i < j) (i j : Nat) (hi : FirstWhere (Names g d.1.name) (x :: xs) i)
        (hj : FirstWhere (Names g e.1.name) (x :: xs) j) : i < j := by
      obtain ⟨i', rfl, hi'⟩ := hi.exists_succ hd
      obtain ⟨j', rfl, hj'⟩ := hj.exists_succ he
      exact Nat.succ_lt_succ (h i' j' hi' hj')
    cases hx : g x with
    | none =>
      rw [List.filterMap_cons_none hx]
      exact ih.imp (behind (not_names_of_eq_none hx _) (not_names_of_eq_none hx _))
    | some a =>
      rw [List.filterMap_cons_some hx]
      have other {e : Declaration × Nat}
          (he : e ∈ (firstOfEachName (xs.filterMap g)).filter fun e => e.1.name != a.1.name) :
          ¬ Names g e.1.name x := by
        have hne : e.1.name ≠ a.1.name := by simpa using (List.mem_filter.mp he).2
        exact mt (names_of_eq_some hx _).mp hne.symm
      refine .cons (fun e he i j hi hj => ?_) ((ih.filter _).imp_of_mem fun hd he =>
        behind (other hd) (other he))
      obtain rfl := hi.eq_zero ((names_of_eq_some hx _).mpr rfl)
      obtain ⟨j, rfl, -⟩ := hj.exists_succ (other he)
      exact Nat.succ_pos j

end

/-- Every name that is declared is among those that count. -/
theorem exists_mem_firstOfEachName {ds : List (Declaration × Nat)} {d : Declaration × Nat}
    (h : d ∈ ds) : ∃ e ∈ firstOfEachName ds, e.1.name = d.1.name := by
  induction ds with
  | nil => cases h
  | cons e ds ih =>
    by_cases hne : e.1.name = d.1.name
    · exact ⟨e, List.mem_cons_self, hne⟩
    · rcases List.mem_cons.mp h with rfl | h
      · exact absurd rfl hne
      · obtain ⟨e', he', hn⟩ := ih h
        refine ⟨e', List.mem_cons_of_mem _ (List.mem_filter.mpr ⟨he', ?_⟩), hn⟩
        rw [hn]
        simpa using fun h => hne h.symm

end Nameplate
