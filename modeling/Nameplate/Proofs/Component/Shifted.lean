import Nameplate.Proofs.Component.Found
import Nameplate.Proofs.Tsx.Moved

/-!
# Components of a tree at another place

A tree at another place declares the same components and makes the same assignments.

* `Shifted`: a tree at another place with nothing reworded;
* `declarationsOf_shifted`: it declares the same names in the same forms;
* `assigns_of_corresponds`: it assigns to a property exactly if the other does.
-/

namespace Nameplate

open Text (Range slice)
open Tsx (Node Kind Field Alike Moved Corresponds rel_head? rel_getLast? rel_some_left)

variable {place : Range → Range} {reworded : Node → Node → Prop}

/-! ## Parentheses and functions -/

theorem unwrap_moved {n n' : Node} (h : Moved place reworded n n') :
    Moved place reworded (unwrap n) (unwrap n') := by
  induction n generalizing n' with
  | mk l cs ih =>
    rw [unwrap_eq, unwrap_eq n', h.kind_eq]
    split
    · rename_i hk
      have hparts := rel_head? (h.parts (by rw [hk]; decide) (by rw [hk]; decide))
      cases hp : (Node.mk l cs).parts.head? with
      | none =>
        rw [hp] at hparts
        generalize n'.parts.head? = p' at hparts
        cases hparts
        exact h
      | some c =>
        rw [hp] at hparts
        obtain ⟨c', hc', hcc⟩ := rel_some_left hparts
        rw [hc']
        exact ih c (Node.child_of_head?_parts hp) hcc
    · exact h

theorem isFunctionValue_moved {n n' : Node} (h : Moved place reworded n n') :
    isFunctionValue n' = isFunctionValue n := by
  rw [isFunctionValue, isFunctionValue, h.kind_eq]

/-! ## Declarations -/

/-- A tree at another place with nothing reworded. -/
abbrev Shifted (place : Range → Range) : Node → Node → Prop := Moved place fun _ _ => False

theorem Shifted.children {n n' : Node} (h : Shifted place n n') :
    List.Forall₂ (Shifted place) n.children n'.children := by
  cases h with
  | kept _ _ h => exact h
  | literal _ _ _ h => exact h.elim

theorem Shifted.field? {n n' : Node} (h : Shifted place n n') (f : Field) :
    Option.Rel (Shifted place) (n.field? f) (n'.field? f) := Moved.rel_field? h.children f

theorem Shifted.parts {n n' : Node} (h : Shifted place n n') :
    List.Forall₂ (Shifted place) n.parts n'.parts := Moved.rel_parts h.children

theorem formOfValue_shifted {n n' : Node} (h : Shifted place n n') :
    formOfValue n' = formOfValue n := by
  have hu := unwrap_moved h
  simp only [formOfValue, isFunctionValue_moved hu, hu.kind_eq]
  have hf := Shifted.field? hu .function
  have ha := Shifted.field? hu .arguments
  generalize (unwrap n).field? .function = f at hf ⊢
  generalize (unwrap n').field? .function = f' at hf ⊢
  generalize (unwrap n).field? .arguments = a at ha ⊢
  generalize (unwrap n').field? .arguments = a' at ha ⊢
  cases hf with
  | none => rfl
  | @some c c' hc =>
    cases ha with
    | none => rfl
    | @some a a' ha =>
      have hparts := Shifted.parts ha
      have hfun : (a'.parts.filter fun p => isFunctionValue (unwrap p)).length =
          (a.parts.filter fun p => isFunctionValue (unwrap p)).length :=
        (List.rel_filter (fun _ _ h => by
          simp only [isFunctionValue_moved (unwrap_moved h)]) hparts).length_eq.symm
      have hlast := rel_getLast? hparts
      simp only [Option.bind_eq_bind, Option.bind_some, hfun, hc.kind_eq]
      generalize a.parts.getLast? = z at hlast ⊢
      generalize a'.parts.getLast? = z' at hlast ⊢
      cases hlast with
      | none => rfl
      | some hz =>
        have hz := unwrap_moved hz
        simp only [Option.bind_some, isFunctionValue_moved hz, hz.kind_eq]

/-- A declaration at another place. -/
structure Redeclares (place : Range → Range) (d d' : Declaration) : Prop where
  name : d'.name = d.name
  form : d'.form = d.form
  range : d'.range = place d.range

/-- The nodes of a tree have the same text at their other places. -/
def Reads (place : Range → Range) (source source' : List Char) (n : Node) : Prop :=
  ∀ m ∈ n.nodes, ∀ m', m'.range = place m.range → sourceText source' m' = sourceText source m

section

variable {source source' : List Char}

theorem Reads.child {n c : Node} (h : Reads place source source' n) (hc : c ∈ n.children) :
    Reads place source source' c := fun m hm => h m (Node.mem_nodes.mpr (.inr ⟨c, hc, hm⟩))

theorem declaratorComponent_shifted {range : Range} {n n' : Node} (h : Shifted place n n')
    (ht : Reads place source source' n) :
    Option.Rel (Redeclares place) (declaratorComponent source range n)
      (declaratorComponent source' (place range) n') := by
  have hn := Shifted.field? h .name
  have hv := Shifted.field? h .value
  have hmem : ∀ c ∈ n.field? .name, c ∈ n.nodes := fun c hc =>
    Node.nodes_of_child (Node.child_of_field? hc)
  simp only [declaratorComponent, h.kind_eq]
  generalize n.field? .name = a at hn hmem ⊢
  generalize n'.field? .name = a' at hn ⊢
  generalize n.field? .value = v at hv ⊢
  generalize n'.field? .value = v' at hv ⊢
  cases hk : n.kind == Kind.declarator with
  | false => exact .none
  | true =>
    cases hn with
    | none => exact .none
    | @some a a' ha =>
      rw [Option.bind_eq_bind, Option.bind_eq_bind]
      simp only [guard, if_true, Option.pure_def, Option.bind_eq_bind, Option.bind_some,
        ha.kind_eq]
      cases hi : a.kind == Kind.identifier with
      | false => exact .none
      | true =>
        cases hv with
        | none => exact .none
        | some hv =>
          simp only [if_true, Option.bind_some, formOfValue_shifted hv]
          cases formOfValue _ with
          | none => exact .none
          | some form => exact .some ⟨ht a (hmem a rfl) a' ha.range_eq, rfl, rfl⟩

theorem componentsOf_shifted {range : Range} {n n' : Node} (h : Shifted place n n')
    (ht : Reads place source source' n) :
    List.Forall₂ (Redeclares place) (componentsOf source range n)
      (componentsOf source' (place range) n') := by
  simp only [componentsOf, h.kind_eq]
  split
  · have hhead : n'.children.head?.map Node.kind = n.children.head?.map Node.kind := by
      have := rel_head? (Shifted.children h)
      generalize n.children.head? = c at this ⊢
      generalize n'.children.head? = c' at this ⊢
      cases this with
      | none => rfl
      | some hc => rw [Option.map_some, Option.map_some, hc.kind_eq]
    rw [hhead]
    split
    · have hreads : ∀ c ∈ n.parts, Reads place source source' c := fun c hc =>
        ht.child (List.mem_filter.mp hc).1
      exact List.rel_filterMap (R := fun c c' => Reads place source source' c ∧ Shifted place c c')
        (fun _ _ hc => declaratorComponent_shifted hc.2 hc.1)
        ((List.forall₂_and_left _ _).mpr ⟨hreads, Shifted.parts h⟩)
    · exact .nil
  · have hn := Shifted.field? h .name
    have hmem : ∀ c ∈ n.field? .name, c ∈ n.nodes := fun c hc =>
      Node.nodes_of_child (Node.child_of_field? hc)
    generalize n.field? .name = a at hn hmem ⊢
    generalize n'.field? .name = a' at hn ⊢
    cases hn with
    | none => exact .nil
    | @some a a' ha => exact .cons ⟨ht a (hmem a rfl) a' ha.range_eq, rfl, rfl⟩ .nil
  · exact .nil

/-- A statement at another place declares the same components. -/
theorem declarationsOf_shifted {n n' : Node} (h : Shifted place n n')
    (ht : Reads place source source' n) :
    List.Forall₂ (Redeclares place) (declarationsOf source n) (declarationsOf source' n') := by
  simp only [declarationsOf, h.kind_eq, h.range_eq]
  split
  · have hd := Shifted.field? h .declaration
    have hmem : ∀ c ∈ n.field? .declaration, c ∈ n.children := fun c hc => Node.child_of_field? hc
    generalize n.field? .declaration = d at hd hmem ⊢
    generalize n'.field? .declaration = d' at hd ⊢
    cases hd with
    | none => exact .nil
    | @some d d' hd => exact componentsOf_shifted hd (ht.child (hmem d rfl))
  · exact componentsOf_shifted h ht

end

/-- Declarations of the same names are chosen from lists of them. -/
theorem firstOfEachName_rel {R : Declaration × Nat → Declaration × Nat → Prop}
    (hR : ∀ d d', R d d' → d'.1.name = d.1.name) {ds ds' : List (Declaration × Nat)}
    (h : List.Forall₂ R ds ds') : List.Forall₂ R (firstOfEachName ds) (firstOfEachName ds') := by
  induction h with
  | nil => exact .nil
  | @cons d d' ds ds' hd _ ih =>
    refine .cons hd (List.rel_filter (fun e e' he => ?_) ih)
    simp only [hR d d' hd, hR e e' he]

/-! ## Assignments -/

/-- A statement makes an assignment exactly if the one that corresponds to it makes one. -/
theorem assigns_of_corresponds {R : Node → Node → Prop} (hR : Corresponds R)
    {s s' e l o p r : Node} (h : R s s') (ha : Assigns s e l o p r) :
    ∃ e' l' o' p' r', Assigns s' e' l' o' p' r' ∧ R o o' ∧ R p p' ∧ R r r' := by
  have hfirst := rel_head?
    (hR.parts h (by rw [ha.statement]; decide) (by rw [ha.statement]; decide))
  rw [ha.first] at hfirst
  obtain ⟨e', he', hee⟩ := rel_some_left hfirst
  have hfield := hR.field? hee (by rw [ha.assignment]; decide) (by rw [ha.assignment]; decide)
  have hleft := hfield .left
  have hright := hfield .right
  rw [ha.left] at hleft
  rw [ha.right] at hright
  obtain ⟨l', hl', hll⟩ := rel_some_left hleft
  obtain ⟨r', hr', hrr⟩ := rel_some_left hright
  have hfield := hR.field? hll (by rw [ha.member]; decide) (by rw [ha.member]; decide)
  have hobject := hfield .object
  have hproperty := hfield .property
  rw [ha.object] at hobject
  rw [ha.property] at hproperty
  obtain ⟨o', ho', hoo⟩ := rel_some_left hobject
  obtain ⟨p', hp', hpp⟩ := rel_some_left hproperty
  exact ⟨e', l', o', p', r',
    ⟨(hR.kind_eq h).trans ha.statement, he', (hR.kind_eq hee).trans ha.assignment, hl',
      (hR.kind_eq hll).trans ha.member, ho', hp', (hR.kind_eq hoo).trans ha.name,
      (hR.kind_eq hpp).trans ha.key, hr'⟩, hoo, hpp, hrr⟩

/-- A value at another place. -/
def NameValue.movedBy (place : Range → Range) : NameValue → NameValue
  | .literal raw range quote => .literal raw (place range) quote
  | .computed => .computed

/-- With the same parts, a literal stays one. -/
theorem isStringLiteral_kept {n n' : Node} (ha : Alike n n')
    (h : List.Forall₂ (Moved place reworded) n.children n'.children) :
    isStringLiteral n' = isStringLiteral n := by
  have hall : (n'.parts.all fun p => p.kind != .substitution) =
      n.parts.all fun p => p.kind != .substitution := by
    have hparts := Moved.rel_parts h
    generalize n.parts = ps at hparts ⊢
    generalize n'.parts = ps' at hparts ⊢
    induction hparts with
    | nil => rfl
    | cons hp _ ih => rw [List.all_cons, List.all_cons, hp.kind_eq, ih]
  rw [isStringLiteral, isStringLiteral, ha.kind, hall]

/-- A right side with the same text has the same value. -/
theorem valueOfRight_shifted {source source' : List Char} {r r' : Node} (h : Shifted place r r')
    (ht : slice source' (unwrap r').range = slice source (unwrap r).range) :
    valueOfRight source' r' = (valueOfRight source r).movedBy place := by
  have hu := unwrap_moved h
  unfold valueOfRight
  dsimp only
  rw [isStringLiteral_kept hu.alike (Shifted.children hu), ht, hu.range_eq]
  split
  · generalize (slice source (unwrap r).range).getD [] = text
    cases text with
    | nil => rfl
    | cons quote rest =>
      dsimp only
      split
      · rfl
      · rfl
  · rfl

/-- A statement makes one assignment only. -/
theorem Assigns.unique {s e l o p r e' l' o' p' r' : Node} (h : Assigns s e l o p r)
    (h' : Assigns s e' l' o' p' r') : l = l' ∧ o = o' ∧ p = p' ∧ r = r' := by
  obtain rfl := Option.some.inj (h.first.symm.trans h'.first)
  obtain rfl := Option.some.inj (h.left.symm.trans h'.left)
  exact ⟨rfl, Option.some.inj (h.object.symm.trans h'.object),
    Option.some.inj (h.property.symm.trans h'.property),
    Option.some.inj (h.right.symm.trans h'.right)⟩

end Nameplate
