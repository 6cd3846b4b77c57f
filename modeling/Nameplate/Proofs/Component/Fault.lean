import Nameplate.Component.Analysis
import Nameplate.Proofs.Tsx.Placed

/-!
# The first fault

A tree with the error flag is reported for the first of its nodes, in reading order, that is an
error or missing. Subtrees without the flag are not searched; if the flags of a tree are right,
there is nothing to find in them.

* `flagged_iff`: the flags of a tree are right if they are at each of its nodes;
* `firstFaulty_eq`: passing over subtrees does not change what is found;
* `Reported`: what is said about a node;
* `first_reported`: the first fault is reported, and nothing else is.
-/

namespace Nameplate

open Tsx (Node nodesOf)

/-! ## Flags -/

namespace Tsx

theorem anyFlagged_iff {ns : List Node} :
    anyFlagged ns ↔ ∃ n ∈ ns, n.label.hasError = true := by
  induction ns with
  | nil => simp [anyFlagged]
  | cons n ns ih => simp only [anyFlagged, ih, List.mem_cons, exists_eq_or_imp]

theorem allFlagged_iff {ns : List Node} : allFlagged ns ↔ ∀ n ∈ ns, n.Flagged := by
  induction ns with
  | nil => simp [allFlagged]
  | cons n ns ih => rw [allFlagged, ih, List.forall_mem_cons]

namespace Node

theorem isFault_iff {n : Node} : n.isFault = true ↔ n.kind = .error ∨ n.label.missing = true := by
  rw [isFault, Bool.or_eq_true, beq_iff_eq]

/-- The flag of a node and the flags of its children. -/
theorem flagged_children {n : Node} : n.Flagged ↔
    (n.label.hasError = true ↔
      n.isFault = true ∨ ∃ c ∈ n.children, c.label.hasError = true) ∧
    ∀ c ∈ n.children, c.Flagged := by
  obtain ⟨l, cs⟩ := n
  rw [Flagged, anyFlagged_iff, allFlagged_iff, isFault_iff, or_assoc]
  rfl

/-- There is a fault in a tree if the root is one, or if there is one below the root. -/
theorem exists_fault {n : Node} : (∃ m ∈ n.nodes, m.isFault = true) ↔
    n.isFault = true ∨ ∃ c ∈ n.children, ∃ m ∈ c.nodes, m.isFault = true := by
  constructor
  · rintro ⟨m, hm, hfault⟩
    rcases mem_nodes.mp hm with rfl | ⟨c, hc, hmc⟩
    · exact .inl hfault
    · exact .inr ⟨c, hc, m, hmc, hfault⟩
  · rintro (hfault | ⟨c, hc, m, hmc, hfault⟩)
    · exact ⟨n, n.self_mem_nodes, hfault⟩
    · exact ⟨m, mem_nodes.mpr (.inr ⟨c, hc, hmc⟩), hfault⟩

/-- A tree carries the flag exactly if there is a fault in it. -/
theorem Flagged.hasError_iff {n : Node} (h : n.Flagged) :
    n.label.hasError = true ↔ ∃ m ∈ n.nodes, m.isFault = true := by
  induction n with
  | mk l cs ih =>
    obtain ⟨hroot, hchildren⟩ := flagged_children.mp h
    rw [hroot, exists_fault]
    refine or_congr_right (exists_congr fun c => and_congr_right fun hc => ?_)
    exact ih c hc (hchildren c hc)

theorem Flagged.of_mem {m n : Node} (h : n.Flagged) (hm : m ∈ n.nodes) : m.Flagged := by
  induction n with
  | mk l cs ih =>
    rcases mem_nodes.mp hm with rfl | ⟨c, hc, hmc⟩
    · exact h
    · exact ih c hc ((flagged_children.mp h).2 c hc) hmc

/-- The flags of a tree are right if each node carries the flag exactly if it or one below it is an
error or missing. -/
theorem flagged_iff {n : Node} : n.Flagged ↔
    ∀ m ∈ n.nodes, m.label.hasError = true ↔ ∃ k ∈ m.nodes, k.isFault = true := by
  constructor
  · exact fun h m hm => (h.of_mem hm).hasError_iff
  · intro h
    induction n with
    | mk l cs ih =>
      have hchild : ∀ c ∈ cs, ∀ m ∈ c.nodes, m ∈ (mk l cs).nodes :=
        fun c hc m hm => mem_nodes.mpr (.inr ⟨c, hc, hm⟩)
      refine flagged_children.mpr ⟨?_, fun c hc => ih c hc fun m hm => h m (hchild c hc m hm)⟩
      rw [h _ (self_mem_nodes _), exists_fault]
      refine or_congr_right (exists_congr fun c => and_congr_right fun hc => ?_)
      exact (h c (hchild c hc c c.self_mem_nodes)).symm

end Node

end Tsx

/-! ## The search -/

theorem firstFaultyOf_eq {ns : List Node}
    (h : ∀ n ∈ ns, firstFaulty n = n.nodes.find? Node.isFault) :
    firstFaultyOf ns = (nodesOf ns).find? Node.isFault := by
  induction ns with
  | nil => rfl
  | cons n ns ih =>
    obtain ⟨hn, hns⟩ := List.forall_mem_cons.mp h
    rw [firstFaultyOf, hn, ih hns, nodesOf, List.find?_append]
    cases n.nodes.find? Node.isFault <;> rfl

/-- The search that passes over subtrees finds the first fault among all nodes. -/
theorem firstFaulty_eq {n : Node} (h : n.Flagged) :
    firstFaulty n = n.nodes.find? Node.isFault := by
  induction n with
  | mk l cs ih =>
    have hbelow := firstFaultyOf_eq fun c hc => ih c hc ((Tsx.Node.flagged_children.mp h).2 c hc)
    rw [firstFaulty]
    split
    case isTrue hfault => rw [Node.nodes, List.find?_cons_of_pos hfault]
    case isFalse hfault =>
      rw [Node.nodes, List.find?_cons_of_neg hfault, ← hbelow]
      split
      case isTrue => rfl
      -- Without the flag there is no fault in the tree, so that the search of it finds none.
      case isFalse hflag =>
        rw [hbelow, eq_comm, List.find?_eq_none]
        intro m hm hm'
        refine hflag (h.hasError_iff.mpr ⟨m, ?_, hm'⟩)
        exact List.mem_cons_of_mem _ hm

/-! ## The report -/

/-- What is said about a node that is missing, or else an error. -/
structure Reported (n : Node) (f : Fault) : Prop where
  /-- A missing node is named, and its place is where it should start. -/
  missing : n.label.missing = true →
    f.describe = "missing `" ++ kindName n.kind ++ "`" ∧ f.range = .empty n.start.byte
  /-- An error is reported with its extent. -/
  error : n.label.missing = false →
    n.kind = .error ∧ f.describe = "unexpected syntax" ∧ f.range = n.range

theorem reported_faultOf {root n : Node} (h : firstFaulty root = some n)
    (hfault : n.isFault = true) : Reported n (faultOf root) := by
  unfold faultOf
  rw [h]
  dsimp only
  split
  case isTrue hmissing => exact ⟨fun _ => ⟨rfl, rfl⟩, fun hno => absurd hmissing (by simp [hno])⟩
  case isFalse hmissing =>
    have herror := (Node.isFault_iff.mp hfault).resolve_right hmissing
    exact ⟨fun hyes => absurd hyes hmissing, fun _ => ⟨herror, rfl, rfl⟩⟩

/-- A tree with right flags is reported for its first fault in reading order if it carries the flag,
and otherwise has no fault and is not reported. -/
theorem first_reported {root : Node} (h : root.Flagged) (source : List Char) :
    (root.label.hasError = true → ∃ n f,
      root.nodes.find? Node.isFault = some n ∧ firstFaulty root = some n ∧ Reported n f ∧
        analyzeTree root source = .error f) ∧
    (root.label.hasError = false → (∀ n ∈ root.nodes, n.isFault = false) ∧
      ∃ candidates, analyzeTree root source = .ok candidates) := by
  constructor
  · intro hflag
    obtain ⟨m, hm, hfault⟩ := h.hasError_iff.mp hflag
    obtain ⟨n, hn⟩ := Option.isSome_iff_exists.mp (List.find?_isSome.mpr ⟨m, hm, hfault⟩)
    have hfirst : firstFaulty root = some n := (firstFaulty_eq h).trans hn
    refine ⟨n, faultOf root, hn, hfirst, reported_faultOf hfirst (List.find?_some hn), ?_⟩
    rw [analyzeTree, if_pos hflag]
  · intro hflag
    refine ⟨fun n hn => ?_, ?_⟩
    · rw [Bool.eq_false_iff]
      exact fun hfault => absurd (h.hasError_iff.mpr ⟨n, hn, hfault⟩) (by simp [hflag])
    · rw [analyzeTree, if_neg (by simp [hflag])]
      exact ⟨_, rfl⟩

/-! ## A tree with several faults -/

/-- A closing brace that is missing behind the last statement of a function. -/
def missingBrace : Node :=
  .mk { kind := .token "\x7d", start := ⟨16, 0⟩, stop := ⟨16, 0⟩, named := false, missing := true
        hasError := true } []

/-- A statement without faults, a function without its last brace, and an error in an error. -/
def brokenTree : Node :=
  .mk { kind := .program, start := ⟨0, 0⟩, stop := ⟨20, 1⟩, hasError := true }
    [.mk { kind := .expressionStatement, start := ⟨0, 0⟩, stop := ⟨2, 0⟩ }
      [.mk { kind := .identifier, start := ⟨0, 0⟩, stop := ⟨1, 0⟩ } []],
     .mk { kind := .functionDeclaration, start := ⟨3, 0⟩, stop := ⟨16, 0⟩, hasError := true }
      [.mk { kind := .other "statement_block", start := ⟨14, 0⟩, stop := ⟨16, 0⟩, hasError := true }
        [missingBrace]],
     .mk { kind := .error, start := ⟨17, 1⟩, stop := ⟨20, 1⟩, hasError := true }
      [.mk { kind := .error, start := ⟨17, 1⟩, stop := ⟨18, 1⟩, hasError := true } []]]

/-- The brace is reported: it comes before the errors, although the function itself is no fault. -/
theorem first_reported_brace : brokenTree.Flagged ∧ brokenTree.label.hasError = true ∧
    ∃ n f, brokenTree.nodes.find? Node.isFault = some n ∧ n = missingBrace ∧
      firstFaulty brokenTree = some n ∧ Reported n f ∧ analyzeTree brokenTree [] = .error f := by
  have hflagged : brokenTree.Flagged := Tsx.Node.flagged_iff.mpr (by decide +kernel)
  obtain ⟨n, f, hn, hrest⟩ := (first_reported hflagged []).1 rfl
  have hbrace : brokenTree.nodes.find? Node.isFault = some missingBrace := rfl
  exact ⟨hflagged, rfl, n, f, hn, Option.some.inj (hn.symm.trans hbrace), hrest⟩

end Nameplate
