import Nameplate.Proofs.Text.Splice
import Nameplate.Tsx.Tree

/-!
# Trees in their place

What a parser promises about the places of the nodes of a tree: each node covers a part of the
source, children lie inside their parent, siblings follow each other, and the left side of an
assignment comes before its right side.

* `Node.induct`: induction over trees;
* `Node.nodes`: all nodes of a tree;
* `Placed`: the promise, and `Placed.apart`, what it says about the statements of a file;
* `Stacked`: the part of it that is about the places of nodes to each other only.
-/

namespace Nameplate.Tsx

open Nameplate.Text (slice start_le_stop_of_slice)

/-- Induction over trees: a property of all children of a node is passed on to the node. -/
@[elab_as_elim, induction_eliminator]
theorem Node.induct {motive : Node → Prop}
    (mk : ∀ l cs, (∀ c ∈ cs, motive c) → motive (.mk l cs)) : ∀ n, motive n
  | .mk l cs => mk l cs fun c _ => Node.induct mk c

mutual

/-- The nodes of a tree, the root first. -/
def Node.nodes : Node → List Node
  | .mk l cs => .mk l cs :: nodesOf cs

/-- The nodes of several trees. -/
def nodesOf : List Node → List Node
  | [] => []
  | n :: ns => n.nodes ++ nodesOf ns

end

theorem nodesOf_eq (ns : List Node) : nodesOf ns = ns.flatMap Node.nodes := by
  induction ns with
  | nil => rfl
  | cons n ns ih => rw [nodesOf, ih, List.flatMap_cons]

namespace Node

theorem mem_nodes {m n : Node} : m ∈ n.nodes ↔ m = n ∨ ∃ c ∈ n.children, m ∈ c.nodes := by
  obtain ⟨l, cs⟩ := n
  rw [nodes, nodesOf_eq, List.mem_cons, List.mem_flatMap]
  rfl

theorem self_mem_nodes (n : Node) : n ∈ n.nodes := mem_nodes.mpr (.inl rfl)

theorem nodes_of_child {c n : Node} (h : c ∈ n.children) : c ∈ n.nodes :=
  mem_nodes.mpr (.inr ⟨c, h, c.self_mem_nodes⟩)

theorem nodes_trans {k m n : Node} (hk : k ∈ m.nodes) (hm : m ∈ n.nodes) : k ∈ n.nodes := by
  induction n with
  | mk l cs ih =>
    rcases mem_nodes.mp hm with rfl | ⟨c, hc, hm⟩
    · exact hk
    · exact mem_nodes.mpr (.inr ⟨c, hc, ih c hc hm⟩)

theorem child_of_field? {n c : Node} {f : Field} (h : n.field? f = some c) : c ∈ n.children :=
  List.mem_of_find?_eq_some h

theorem child_of_head?_parts {n c : Node} (h : n.parts.head? = some c) : c ∈ n.children :=
  (List.mem_filter.mp (List.mem_of_head? h)).1

/-- Every node lies inside the root, if children lie inside their parent. -/
theorem inside_of_mem_nodes {root n : Node}
    (h : ∀ m ∈ root.nodes, ∀ c ∈ m.children, c.range.Inside m.range) (hn : n ∈ root.nodes) :
    n.range.Inside root.range := by
  induction root with
  | mk l cs ih =>
    rcases mem_nodes.mp hn with rfl | ⟨c, hc, hn⟩
    · exact ⟨Nat.le_refl _, Nat.le_refl _⟩
    · exact (ih c hc (fun m hm => h m (nodes_trans hm (nodes_of_child hc))) hn).trans
        (h _ (self_mem_nodes _) c hc)

/-- Of two nodes of a list the one stops before the other starts, if the nodes follow each other. -/
theorem apart_of_pairwise {ns : List Node} {a b : Node}
    (h : ns.Pairwise fun a b => a.stop.byte ≤ b.start.byte) (ha : a ∈ ns) (hb : b ∈ ns)
    (hne : a ≠ b) : a.range.Apart b.range := by
  obtain ⟨pre, post, rfl⟩ := List.append_of_mem ha
  obtain ⟨-, hpost, hpre⟩ := List.pairwise_append.mp h
  rcases List.mem_append.mp hb with hb | hb
  · exact .inr (hpre b hb a List.mem_cons_self)
  · rcases List.mem_cons.mp hb with rfl | hb
    · exact absurd rfl hne
    · exact .inl ((List.pairwise_cons.mp hpost).1 b hb)

end Node

/-- The nodes of a tree are placed in a source as a parser places them. -/
structure Placed (source : List Char) (root : Node) : Prop where
  /-- A node covers a part of the source. -/
  covers : ∀ n ∈ root.nodes, (slice source n.range).isSome
  /-- Siblings follow each other. -/
  inOrder : ∀ n ∈ root.nodes, n.children.Pairwise fun a b => a.stop.byte ≤ b.start.byte
  /-- Children lie inside their parent. -/
  inside : ∀ n ∈ root.nodes, ∀ c ∈ n.children, c.range.Inside n.range
  /-- The left side of an assignment comes first. -/
  sides : ∀ n ∈ root.nodes, n.kind = .assignment →
    ∀ l ∈ n.field? .left, ∀ r ∈ n.field? .right, l.stop.byte ≤ r.start.byte

instance (source : List Char) (root : Node) : Decidable (Placed source root) :=
  decidable_of_iff ((∀ n ∈ root.nodes, (slice source n.range).isSome) ∧
      (∀ n ∈ root.nodes, n.children.Pairwise fun a b => a.stop.byte ≤ b.start.byte) ∧
      (∀ n ∈ root.nodes, ∀ c ∈ n.children, c.range.Inside n.range) ∧
      ∀ n ∈ root.nodes, n.kind = .assignment →
        ∀ l ∈ n.field? .left, ∀ r ∈ n.field? .right, l.stop.byte ≤ r.start.byte)
    ⟨fun h => ⟨h.1, h.2.1, h.2.2.1, h.2.2.2⟩, fun h => ⟨h.covers, h.inOrder, h.inside, h.sides⟩⟩

namespace Placed

variable {source : List Char} {root : Node}

theorem of_mem (h : Placed source root) {n : Node} (hn : n ∈ root.nodes) : Placed source n where
  covers m hm := h.covers m (Node.nodes_trans hm hn)
  inOrder m hm := h.inOrder m (Node.nodes_trans hm hn)
  inside m hm := h.inside m (Node.nodes_trans hm hn)
  sides m hm := h.sides m (Node.nodes_trans hm hn)

theorem child (h : Placed source root) {n : Node} (hn : n ∈ root.children) : Placed source n :=
  h.of_mem (Node.nodes_of_child hn)

theorem start_le_stop (h : Placed source root) : root.start.byte ≤ root.stop.byte :=
  start_le_stop_of_slice (h.covers root root.self_mem_nodes)

/-- Every node lies inside the root. -/
theorem inside_root (h : Placed source root) {n : Node} (hn : n ∈ root.nodes) :
    n.range.Inside root.range := Node.inside_of_mem_nodes h.inside hn

/-- Of two children the one stops before the other starts. -/
theorem apart (h : Placed source root) {a b : Node} (ha : a ∈ root.children)
    (hb : b ∈ root.children) (hne : a ≠ b) : a.range.Apart b.range :=
  Node.apart_of_pairwise (h.inOrder root root.self_mem_nodes) ha hb hne

end Placed

/-- The nodes at the top of a tree follow each other, and children lie inside their parent. -/
structure Stacked (root : Node) : Prop where
  /-- A node does not stop before it starts. -/
  forward : ∀ n ∈ root.children, n.start.byte ≤ n.stop.byte
  /-- Nodes follow each other. -/
  inOrder : root.children.Pairwise fun a b => a.stop.byte ≤ b.start.byte
  /-- Children lie inside their parent. -/
  inside : ∀ n ∈ root.nodes, ∀ c ∈ n.children, c.range.Inside n.range

theorem Placed.stacked {source : List Char} {root : Node} (h : Placed source root) :
    Stacked root where
  forward _ hn := (h.child hn).start_le_stop
  inOrder := h.inOrder root root.self_mem_nodes
  inside := h.inside

/-! ## A tree in its place -/

/-- A phrase on one row. -/
def rowPhrase (kind : Kind) (row start stop : Nat) (children : List Node) : Node :=
  .mk { kind, start := ⟨start, row⟩, stop := ⟨stop, row⟩ } children

/-- A word or a mark on one row. -/
def rowMark (text : String) (row start : Nat) : Node :=
  .mk { kind := .token text, start := ⟨start, row⟩, stop := ⟨start + text.length, row⟩,
        named := false } []

/-- The tree of `function X() {}` without blanks but the first. -/
def functionTree (row start : Nat) : Node :=
  rowPhrase .functionDeclaration row start (start + 14)
    [rowMark "function" row start,
      (rowPhrase .identifier row (start + 9) (start + 10) []).withField .name,
      rowPhrase (.other "formal_parameters") row (start + 10) (start + 12)
        [rowMark "(" row (start + 10), rowMark ")" row (start + 11)],
      rowPhrase (.other "statement_block") row (start + 12) (start + 14)
        [rowMark "\x7b" row (start + 12), rowMark "\x7d" row (start + 13)]]

/-- The tree of `X.displayName = 'text'` with `blank` blanks on both sides of the equals sign. -/
def namingTree (quote : String) (row start blank stop : Nat) : Node :=
  rowPhrase .assignment row start stop
    [Node.withField .left <| rowPhrase .member row start (start + 13)
        [(rowPhrase .identifier row start (start + 1) []).withField .object,
          rowMark "." row (start + 1),
          (rowPhrase .propertyIdentifier row (start + 2) (start + 13) []).withField .property],
      rowMark "=" row (start + 13 + blank),
      Node.withField .right <| rowPhrase .string row (start + 14 + 2 * blank) stop
        [rowMark quote row (start + 14 + 2 * blank),
          rowPhrase (.other "string_fragment") row (start + 15 + 2 * blank) (stop - 1) [],
          rowMark quote row (stop - 1)]]

/-- Two components, of which the second has a name. -/
def sampleText : List Char := "function A()\x7b\x7dfunction B()\x7b\x7dB.displayName='C'".toList

def sampleTree : Node :=
  rowPhrase .program 0 0 45
    [functionTree 0 0, functionTree 0 14,
      rowPhrase .expressionStatement 0 28 45 [namingTree "'" 0 28 0 45]]

theorem placed_sample : Placed sampleText sampleTree where
  covers := by decide +kernel
  inOrder := by decide +kernel
  inside := by decide +kernel
  sides := by decide +kernel

/-- The tree of `()=>1`. -/
def arrowTree (row start : Nat) : Node :=
  rowPhrase .arrowFunction row start (start + 5)
    [rowPhrase (.other "formal_parameters") row start (start + 2) [], rowMark "=>" row (start + 2),
      rowPhrase (.other "number") row (start + 4) (start + 5) []]

/-- The tree of `X=value`. -/
def declaratorTree (row start stop : Nat) (value : Node) : Node :=
  rowPhrase .declarator row start stop
    [(rowPhrase .identifier row start (start + 1) []).withField .name, rowMark "=" row (start + 1),
      value.withField .value]

/-- The tree of `X.note=1`. -/
def noteTree (row start : Nat) : Node :=
  rowPhrase .assignment row start (start + 8)
    [Node.withField .left <| rowPhrase .member row start (start + 6)
        [(rowPhrase .identifier row start (start + 1) []).withField .object,
          rowMark "." row (start + 1),
          (rowPhrase .propertyIdentifier row (start + 2) (start + 6) []).withField .property],
      rowMark "=" row (start + 6),
      (rowPhrase (.other "number") row (start + 7) (start + 8) []).withField .right]

/-- A file that declares `A` twice and `B` once, and a variable. -/
def fileText : List Char :=
  ("export const A=(()=>1),B=f(()=>2);/**/\nfunction A()\x7b\x7dlet C=()=>3;\n" ++
    "A.displayName='X';B.note=1;").toList

def fileTree : Node :=
  .mk { kind := .program, start := ⟨0, 0⟩, stop := ⟨93, 2⟩ }
    [rowPhrase .exportStatement 0 0 34
        [rowMark "export" 0 0,
          Node.withField .declaration <| rowPhrase .lexicalDeclaration 0 7 34
            [rowMark "const" 0 7,
              declaratorTree 0 13 22 <| rowPhrase .parenthesized 0 15 22
                [rowMark "(" 0 15, arrowTree 0 16, rowMark ")" 0 21],
              rowMark "," 0 22,
              declaratorTree 0 23 33 <| rowPhrase .call 0 25 33
                [(rowPhrase .identifier 0 25 26 []).withField .function,
                  Node.withField .arguments <| rowPhrase .arguments 0 26 33
                    [rowMark "(" 0 26, arrowTree 0 27, rowMark ")" 0 32]],
              rowMark ";" 0 33]],
      .mk { kind := .comment, start := ⟨34, 0⟩, stop := ⟨38, 0⟩, extra := true } [],
      functionTree 1 39,
      rowPhrase .lexicalDeclaration 1 53 65
        [rowMark "let" 1 53, declaratorTree 1 57 64 (arrowTree 1 59), rowMark ";" 1 64],
      rowPhrase .expressionStatement 2 66 84 [namingTree "'" 2 66 0 83, rowMark ";" 2 83],
      rowPhrase .expressionStatement 2 84 93 [noteTree 2 84, rowMark ";" 2 92]]

end Nameplate.Tsx
