import Nameplate.Proofs.Naming.Batch

/-!
# What naming leaves alone

Carrying out the edits of a file changes nothing in it but the literals of display names: every
other statement and every comment at the top of the file is found again, byte by byte and in its
order.

* `Harmless`: what that means, for ranges and for texts;
* `editsFor_harmless`: the edits of every file are harmless.
-/

namespace Nameplate.Naming

open Text (Edit slice slice_eq_some byteLength)
open Text.Edit (moved)
open Tsx (Node Placed sampleText sampleTree placed_sample)

/-- Edits of a source, which make another source of it, do no harm to the nodes at its top. -/
structure Harmless (source source' : List Char) (nodes : List Node) (candidates : List Candidate)
    (edits : List NameEdit) : Prop where
  /-- The ranges are ranges of the source. -/
  bounded : ∀ e ∈ edits, e.range.start ≤ e.range.stop ∧ e.range.stop ≤ byteLength source
  /-- Any two edits are apart; only insertions may start at one place. -/
  separate : edits.Pairwise fun d e => d.range.Apart e.range ∧
    (d.range.start = e.range.start →
      d.range.start = d.range.stop ∧ e.range.start = e.range.stop)
  declarations : ∀ e ∈ edits, ∀ c ∈ candidates, e.range.Apart c.range
  siblings : ∀ e ∈ edits, ∀ c ∈ candidates, ∀ s ∈ c.siblings, e.range.Apart s.range
  /-- An edit keeps away from all statements and comments but the one it rewrites. -/
  others : ∀ e ∈ edits, ∀ n ∈ nodes, e.range.Apart n.range ∨ Rewrites source e n
  /-- What is not rewritten is found again as it was. -/
  kept : ∀ n ∈ nodes, (∀ e ∈ edits, ¬ Rewrites source e n) →
    ∃ text, slice source n.range = some text ∧
      slice source' (moved (textEdits edits) n.range) = some text
  /-- What is rewritten differs in its literal only. -/
  rewritten : ∀ n ∈ nodes, ∀ e ∈ edits, Rewrites source e n →
    ∃ front literal back, slice source n.range = some (front ++ (literal ++ back)) ∧
      n.start.byte + byteLength front = e.range.start ∧ slice source e.range = some literal ∧
      slice source' (moved (textEdits edits) n.range) =
        some (front ++ (e.newText.toList ++ back))
  /-- All of it is in its order. -/
  ordered : nodes.Pairwise fun m n =>
    (moved (textEdits edits) m.range).stop ≤ (moved (textEdits edits) n.range).start

/-- The edits that name the components of a file without faults can be carried out and are
harmless. -/
theorem editsFor_harmless {source : List Char} {root : Node} (placed : Placed source root)
    (clean : root.label.hasError = false) (label lineEnding : String) :
    ∃ candidates source', analyzeTree root source = .ok candidates ∧
      Edit.applyAll (textEdits (editsFor candidates label lineEnding)) source = some source' ∧
      Harmless source source' root.children candidates
        (editsFor candidates label lineEnding) := by
  obtain ⟨source', spliced, applied⟩ := exists_spliced_batch placed label lineEnding
  refine ⟨_, source', analyzeTree_eq clean source, applied, ?_⟩
  rw [show editsFor _ label lineEnding = batch source root label lineEnding from rfl]
  have h : Named source source' root label lineEnding := ⟨placed, spliced⟩
  constructor
  case bounded =>
    intro e he
    obtain ⟨part, hp⟩ := Option.isSome_iff_exists.mp (fits placed he)
    obtain ⟨hat, hstop⟩ := slice_eq_some.mp hp
    have := hat.le_byteLength
    omega
  case separate =>
    exact (batch_pairwise placed label lineEnding).imp_of_mem
      fun hd he hne => batch_apart placed hd he hne
  case declarations =>
    intro e he c hc
    obtain ⟨front, s, following, hs, hk, hr, -⟩ := declared_of_mem hc
    rw [hr]
    refine (apart_or_rewrites placed he (by rw [hs]; simp)).resolve_right ?_
    rintro ⟨a, _, _, ha, -⟩
    obtain ⟨_, _, _, _, _, hm, -⟩ := assignmentOf_eq_some.mp ha
    exact hk hm.statement
  case siblings =>
    intro e he c hc s hs
    obtain ⟨t, ht, a, ha, hp, hr⟩ := assigned_of_sibling hc hs
    rw [hr]
    refine (apart_or_rewrites placed he ht).resolve_right ?_
    rintro ⟨b, _, _, hb, -, hb', -⟩
    obtain rfl := Option.some.inj (ha.symm.trans hb)
    exact hp hb'
  case others => exact fun e he n hn => apart_or_rewrites placed he hn
  case kept =>
    intro n hn hno
    obtain ⟨text, ht⟩ := Option.isSome_iff_exists.mp (placed.covers n (Node.nodes_of_child hn))
    refine ⟨text, ht, ?_⟩
    rw [← ht]
    exact h.slice_eq (placed.covers n (Node.nodes_of_child hn)) fun e he =>
      (apart_or_rewrites placed he hn).resolve_right (hno e he)
  case rewritten =>
    intro n hn e he hrw
    obtain ⟨text, text', ht, ht', hsp⟩ := h.slice_statement hn
    rw [within_statement placed he hn hrw] at hsp
    cases hsp with
    | @step _ _ _ gap old back back' hgap hold hrest =>
      cases hrest
      refine ⟨gap, old, back, ht, hgap, slice_eq_some.mpr ⟨?_, hold.symm⟩, ht'⟩
      have hat := (slice_eq_some.mp ht).1.right
      rw [show n.range.start + byteLength gap = e.range.start from hgap] at hat
      exact hat.left
  case ordered =>
    exact (placed.inOrder root root.self_mem_nodes).imp_of_mem fun hm hn hmn =>
      h.stop_le_start hm hn hmn

/-- In the sample an insertion stands between two declarations and a literal is replaced. -/
theorem editsFor_harmless_sample :
    Placed sampleText sampleTree ∧ sampleTree.label.hasError = false ∧
    batch sampleText sampleTree "X" "\n" =
      [⟨"A", ⟨14, 14⟩, "\nA.displayName = \"XA\";"⟩, ⟨"B", ⟨42, 45⟩, "'XB'"⟩] ∧
    ∃ candidates source', analyzeTree sampleTree sampleText = .ok candidates ∧
      Harmless sampleText source' sampleTree.children candidates
        (batch sampleText sampleTree "X" "\n") := by
  refine ⟨placed_sample, rfl, batch_sample, ?_⟩
  obtain ⟨candidates, source', hok, -, hharmless⟩ := editsFor_harmless placed_sample rfl "X" "\n"
  obtain rfl := Except.ok.inj ((analyzeTree_eq rfl sampleText).symm.trans hok)
  exact ⟨_, source', hok, hharmless⟩

end Nameplate.Naming
