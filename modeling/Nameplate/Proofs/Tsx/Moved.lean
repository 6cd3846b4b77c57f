import Mathlib.Data.List.Forall2
import Nameplate.Proofs.Tsx.Placed

/-!
# A tree at another place

Where a text is edited, a parser finds most of its nodes again, only at other offsets.

* `Alike`: two nodes of one kind in one role;
* `Moved place reworded`: two trees of alike nodes, of which the second stands at the places that
  `place` gives, but for literals with another text, which `reworded` says more about;
* `Moved.parts`, `Moved.field?`: the parts of such trees correspond to each other;
* `Moved.mono`: what is not reworded is found again as it was;
* `Corresponds`: what such trees have in common, seen from either side.
-/

namespace Nameplate.Tsx

open Nameplate.Text (Range)

/-! ## Lists and options whose members correspond -/

section

variable {α β : Type} {R : α → β → Prop}

theorem rel_find? {p : α → Bool} {q : β → Bool} (hpq : ∀ a b, R a b → p a = q b) {l : List α}
    {l' : List β} (h : List.Forall₂ R l l') : Option.Rel R (l.find? p) (l'.find? q) := by
  induction h with
  | nil => exact .none
  | @cons a b l l' hab _ ih =>
    rw [List.find?_cons, List.find?_cons, hpq a b hab]
    cases q b with
    | true => exact .some hab
    | false => exact ih

theorem rel_head? {l : List α} {l' : List β} (h : List.Forall₂ R l l') :
    Option.Rel R l.head? l'.head? := by
  cases h with
  | nil => exact .none
  | cons hab _ => exact .some hab

theorem rel_getLast? {l : List α} {l' : List β} (h : List.Forall₂ R l l') :
    Option.Rel R l.getLast? l'.getLast? := by
  rw [List.getLast?_eq_head?_reverse, List.getLast?_eq_head?_reverse]
  exact rel_head? (List.forall₂_reverse_iff.mpr h)

theorem rel_some_left {a : α} {o : Option β} (h : Option.Rel R (some a) o) :
    ∃ b, o = some b ∧ R a b := by
  cases h with
  | some hab => exact ⟨_, rfl, hab⟩

theorem rel_none_left {o : Option β} (h : Option.Rel R none o) : o = none := by
  cases h
  rfl

theorem rel_flip {a : Option α} {b : Option β} (h : Option.Rel R a b) :
    Option.Rel (flip R) b a := by
  cases h with
  | none => exact .none
  | some hab => exact .some hab

/-- Lists whose members correspond can be cut at the same place. -/
theorem forall₂_append_cons {a b : List α} {x : α} {l : List β}
    (h : List.Forall₂ R (a ++ x :: b) l) :
    ∃ a' x' b', l = a' ++ x' :: b' ∧ List.Forall₂ R a a' ∧ R x x' ∧ List.Forall₂ R b b' := by
  induction a generalizing l with
  | nil =>
    obtain ⟨x', b', hx, hb, rfl⟩ := List.forall₂_cons_left_iff.mp h
    exact ⟨[], x', b', rfl, .nil, hx, hb⟩
  | cons y a ih =>
    obtain ⟨y', l, hy, hl, rfl⟩ := List.forall₂_cons_left_iff.mp h
    obtain ⟨a', x', b', rfl, ha, hx, hb⟩ := ih hl
    exact ⟨y' :: a', x', b', rfl, .cons hy ha, hx, hb⟩

theorem exists_of_forall₂ {l : List α} {l' : List β} (h : List.Forall₂ R l l') {x : α}
    (hx : x ∈ l) : ∃ x' ∈ l', R x x' := by
  obtain ⟨a, b, rfl⟩ := List.append_of_mem hx
  obtain ⟨_, x', _, rfl, -, hxx, -⟩ := forall₂_append_cons h
  exact ⟨x', by simp, hxx⟩

theorem forall₂_mem {l : List α} {l' : List β} (h : List.Forall₂ R l l') :
    List.Forall₂ (fun a b => a ∈ l ∧ b ∈ l' ∧ R a b) l l' := by
  have hright := (List.forall₂_and_left _ _).mpr ⟨fun b hb => hb, h.flip⟩
  exact (List.forall₂_and_left _ _).mpr ⟨fun a ha => ha, hright.flip⟩

end

/-! ## Trees -/

/-- Two nodes are of one kind and stand in one role. -/
structure Alike (n n' : Node) : Prop where
  kind : n'.kind = n.kind
  field : n'.label.field = n.label.field
  named : n'.label.named = n.label.named
  extra : n'.label.extra = n.label.extra

/-- A tree at another place. A literal whose text is another one may have other parts. -/
inductive Moved (place : Range → Range) (reworded : Node → Node → Prop) : Node → Node → Prop where
  | kept {n n' : Node} : Alike n n' → n'.range = place n.range →
      List.Forall₂ (Moved place reworded) n.children n'.children → Moved place reworded n n'
  | literal {n n' : Node} : Alike n n' → n'.range = place n.range →
      n.kind = .string ∨ n.kind = .template → reworded n n' → Moved place reworded n n'

namespace Moved

variable {place : Range → Range} {reworded : Node → Node → Prop} {n n' : Node}

theorem alike (h : Moved place reworded n n') : Alike n n' := by
  cases h with
  | kept h => exact h
  | literal h => exact h

theorem kind_eq (h : Moved place reworded n n') : n'.kind = n.kind := h.alike.kind

theorem range_eq (h : Moved place reworded n n') : n'.range = place n.range := by
  cases h with
  | kept _ h => exact h
  | literal _ h => exact h

/-- A part of a tree is a part of the moved tree. -/
theorem isPart_eq (h : Moved place reworded n n') :
    (n.label.named && !n.label.extra) = (n'.label.named && !n'.label.extra) := by
  rw [h.alike.named, h.alike.extra]

/-- Only literals are reworded. -/
theorem children (h : Moved place reworded n n') (hs : n.kind ≠ .string) (ht : n.kind ≠ .template) :
    List.Forall₂ (Moved place reworded) n.children n'.children := by
  cases h with
  | kept _ _ h => exact h
  | literal _ _ hk _ => exact (hk.elim hs ht).elim

theorem rel_parts (h : List.Forall₂ (Moved place reworded) n.children n'.children) :
    List.Forall₂ (Moved place reworded) n.parts n'.parts :=
  List.rel_filter (fun _ _ h => by simp only [h.isPart_eq]) h

theorem rel_field? (h : List.Forall₂ (Moved place reworded) n.children n'.children) (f : Field) :
    Option.Rel (Moved place reworded) (n.field? f) (n'.field? f) :=
  rel_find? (fun _ _ h => by rw [h.alike.field]) h

theorem parts (h : Moved place reworded n n') (hs : n.kind ≠ .string) (ht : n.kind ≠ .template) :
    List.Forall₂ (Moved place reworded) n.parts n'.parts := rel_parts (h.children hs ht)

theorem field? (h : Moved place reworded n n') (hs : n.kind ≠ .string) (ht : n.kind ≠ .template)
    (f : Field) : Option.Rel (Moved place reworded) (n.field? f) (n'.field? f) :=
  rel_field? (h.children hs ht) f

/-- What is said about reworded literals may be replaced by something that follows from it. -/
theorem mono {reworded' : Node → Node → Prop} (h : Moved place reworded n n')
    (himp : ∀ m ∈ n.nodes, ∀ m', reworded m m' → reworded' m m') :
    Moved place reworded' n n' := by
  induction n generalizing n' with
  | mk l cs ih =>
    cases h with
    | kept ha hr hcs =>
      have hmem : ∀ c ∈ cs, ∀ c', Moved place reworded c c' → Moved place reworded' c c' :=
        fun c hc c' hcc => ih c hc hcc fun m hm =>
          himp m (Node.mem_nodes.mpr (.inr ⟨c, hc, hm⟩))
      exact .kept ha hr (((List.forall₂_and_left _ _).mpr ⟨hmem, hcs⟩).imp fun _ _ h => h.1 _ h.2)
    | literal ha hr hk hre => exact .literal ha hr hk (himp _ (Node.self_mem_nodes _) _ hre)

end Moved

/-- A relation between nodes of one kind whose parts correspond to each other, but for literals. -/
structure Corresponds (R : Node → Node → Prop) : Prop where
  kind_eq : ∀ {n n' : Node}, R n n' → n'.kind = n.kind
  parts : ∀ {n n' : Node}, R n n' → n.kind ≠ .string → n.kind ≠ .template →
    List.Forall₂ R n.parts n'.parts
  field? : ∀ {n n' : Node}, R n n' → n.kind ≠ .string → n.kind ≠ .template →
    ∀ f, Option.Rel R (n.field? f) (n'.field? f)

theorem Moved.corresponds (place : Range → Range) (reworded : Node → Node → Prop) :
    Corresponds (Moved place reworded) := ⟨Moved.kind_eq, Moved.parts, Moved.field?⟩

theorem Corresponds.flip {R : Node → Node → Prop} (h : Corresponds R) : Corresponds (flip R) where
  kind_eq hn := (h.kind_eq hn).symm
  parts hn hs ht := by
    rw [h.kind_eq hn] at hs ht
    exact (h.parts hn hs ht).flip
  field? hn hs ht f := by
    rw [h.kind_eq hn] at hs ht
    exact rel_flip (h.field? hn hs ht f)

end Nameplate.Tsx
