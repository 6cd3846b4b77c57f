import Nameplate.Proofs.Component.Found

/-!
# What is not looked into

Components are declared at the top of a file. What stands inside of functions, blocks, patterns and
declarations that are not constant has no part in it: a tree from which all that is cut away has the
same components.

* `Node.closed`: the phrases that are not looked into;
* `trimmed`: a tree in which they are empty;
* `declarationsOf_trimmed`, `assignmentOf_trimmed`: a statement declares and assigns the same;
* `candidatesIn_trimmed`: a file has the same components.
-/

namespace Nameplate

open Text (Range)
open Tsx (Node Kind Field)

/-! ## Trees -/

/-- Phrases that are not looked into: function values, declarations that are not constant, and all
that has no kind of its own, such as blocks and patterns. -/
def Tsx.Node.closed (n : Node) : Bool :=
  n.label.field != some .arguments &&
    (n.kind == .arrowFunction || n.kind == .functionExpression || n.kind.isOther ||
      (n.kind == .lexicalDeclaration && n.children.head?.map Node.kind != some (.token "const")))

mutual

/-- A tree without what is not looked into. -/
def trimmed : Node → Node
  | .mk l cs => if (Node.mk l cs).closed then .mk l [] else .mk l (trimmedEach cs)

/-- Several trees without what is not looked into. -/
def trimmedEach : List Node → List Node
  | [] => []
  | n :: ns => trimmed n :: trimmedEach ns

end

theorem trimmedEach_eq (ns : List Node) : trimmedEach ns = ns.map trimmed := by
  induction ns with
  | nil => rfl
  | cons n ns ih => rw [trimmedEach, ih, List.map_cons]

@[simp] theorem label_trimmed (n : Node) : (trimmed n).label = n.label := by
  obtain ⟨l, cs⟩ := n
  rw [trimmed]
  split <;> rfl

@[simp] theorem kind_trimmed (n : Node) : (trimmed n).kind = n.kind := by
  rw [Node.kind, label_trimmed]
  rfl

@[simp] theorem start_trimmed (n : Node) : (trimmed n).start = n.start := by
  rw [Node.start, label_trimmed]
  rfl

@[simp] theorem stop_trimmed (n : Node) : (trimmed n).stop = n.stop := by
  rw [Node.stop, label_trimmed]
  rfl

@[simp] theorem range_trimmed (n : Node) : (trimmed n).range = n.range := by
  rw [Node.range, start_trimmed, stop_trimmed]
  rfl

@[simp] theorem sourceText_trimmed (source : List Char) (n : Node) :
    sourceText source (trimmed n) = sourceText source n := by
  rw [sourceText, range_trimmed]
  rfl

theorem isPart_trimmed (n : Node) : ((trimmed n).label.named && !(trimmed n).label.extra) =
    (n.label.named && !n.label.extra) := by
  rw [label_trimmed]

section

variable {n : Node}

theorem children_trimmed (h : n.closed = false) :
    (trimmed n).children = n.children.map trimmed := by
  obtain ⟨l, cs⟩ := n
  rw [trimmed, h, trimmedEach_eq]
  rfl

theorem parts_trimmed (h : n.closed = false) : (trimmed n).parts = n.parts.map trimmed := by
  rw [Node.parts, children_trimmed h, List.filter_map]
  simp only [Function.comp_def, isPart_trimmed]
  rfl

theorem field?_trimmed (h : n.closed = false) (f : Field) :
    (trimmed n).field? f = (n.field? f).map trimmed := by
  rw [Node.field?, children_trimmed h, List.find?_map]
  simp only [Function.comp_def, label_trimmed]
  rfl

/-- Most kinds are looked into. -/
theorem not_closed_of_kind {k : Kind} (hk : n.kind = k)
    (h : k ≠ .arrowFunction ∧ k ≠ .functionExpression ∧ k.isOther = false ∧
      k ≠ .lexicalDeclaration) :
    n.closed = false := by
  subst hk
  simp [Node.closed, h]

theorem not_closed_of_const (hk : n.kind = .lexicalDeclaration)
    (hc : n.children.head?.map Node.kind = some (.token "const")) : n.closed = false := by
  simp [Node.closed, hk, hc, Kind.isOther]

/-- Arguments are always looked into. -/
theorem not_closed_of_arguments (h : n.label.field = some .arguments) : n.closed = false := by
  simp [Node.closed, h]

/-- A declaration is constant exactly if it was. -/
theorem isConst_trimmed : (trimmed n).children.head?.map Node.kind = some (.token "const") ↔
    n.children.head?.map Node.kind = some (.token "const") ∧ n.closed = false := by
  cases hc : n.closed with
  | false =>
    rw [children_trimmed hc, List.head?_map, Option.map_map]
    simp only [Function.comp_def, kind_trimmed, and_true]
  | true =>
    obtain ⟨l, cs⟩ := n
    rw [trimmed, hc]
    simp [Node.children]

end

/-! ## Declarations -/

theorem isFunctionValue_trimmed (n : Node) : isFunctionValue (trimmed n) = isFunctionValue n := by
  rw [isFunctionValue, isFunctionValue, kind_trimmed]

theorem unwrap_trimmed (n : Node) : unwrap (trimmed n) = trimmed (unwrap n) := by
  induction n with
  | mk l cs ih =>
    rw [unwrap_eq, unwrap_eq (.mk l cs), kind_trimmed]
    split
    · rename_i hk
      have hopen := not_closed_of_kind hk (by decide)
      rw [parts_trimmed hopen, List.head?_map]
      cases hp : (Node.mk l cs).parts.head? with
      | none => rfl
      | some c => exact ih c (Node.child_of_head?_parts hp)
    · rfl

theorem formOfValue_trimmed (v : Node) : formOfValue (trimmed v) = formOfValue v := by
  simp only [formOfValue, unwrap_trimmed, isFunctionValue_trimmed, kind_trimmed]
  split <;> [rfl; skip]
  split <;> [skip; rfl]
  rename_i hk
  have hk : (unwrap v).kind = .call := by simpa using hk
  have hopen := not_closed_of_kind hk (by decide)
  rw [field?_trimmed hopen, field?_trimmed hopen]
  cases (unwrap v).field? .function with
  | none => rfl
  | some callee =>
    cases ha : (unwrap v).field? .arguments with
    | none => rfl
    | some arguments =>
      have hrole : arguments.label.field = some .arguments := by simpa using List.find?_some ha
      have hfunctions : (arguments.parts.map trimmed).filter
          (fun a => isFunctionValue (unwrap a)) =
            (arguments.parts.filter fun a => isFunctionValue (unwrap a)).map trimmed := by
        rw [List.filter_map]
        simp only [Function.comp_def, unwrap_trimmed, isFunctionValue_trimmed]
      simp only [Option.map_some, Option.bind_eq_bind, Option.bind_some,
        parts_trimmed (not_closed_of_arguments hrole), hfunctions, List.length_map,
        List.getLast?_map, kind_trimmed]
      cases arguments.parts.getLast? with
      | none => rfl
      | some last =>
        simp only [Option.map_some, Option.bind_some, unwrap_trimmed, isFunctionValue_trimmed,
          kind_trimmed]

theorem declaratorComponent_trimmed (source : List Char) (range : Range) (d : Node) :
    declaratorComponent source range (trimmed d) = declaratorComponent source range d := by
  unfold declaratorComponent
  rw [kind_trimmed]
  by_cases hk : d.kind = .declarator
  · have hopen := not_closed_of_kind hk (by decide)
    rw [field?_trimmed hopen, field?_trimmed hopen]
    cases d.field? .name with
    | none => rfl
    | some name =>
      cases d.field? .value with
      | none => simp
      | some value => simp [formOfValue_trimmed]
  · simp [hk]

theorem componentsOf_trimmed (source : List Char) (range : Range) (d : Node) :
    componentsOf source range (trimmed d) = componentsOf source range d := by
  unfold componentsOf
  rw [kind_trimmed]
  split
  · rename_i hk
    by_cases hc : d.children.head?.map Node.kind = some (.token "const")
    · have hopen := not_closed_of_const hk hc
      have hc' := isConst_trimmed.mpr ⟨hc, hopen⟩
      rw [if_pos (by simpa using hc'), if_pos (by simpa using hc), parts_trimmed hopen,
        List.filterMap_map]
      exact List.filterMap_congr fun p _ => declaratorComponent_trimmed source range p
    · have hc' := mt isConst_trimmed.mp (not_and_of_not_left _ hc)
      rw [if_neg (by simpa using hc'), if_neg (by simpa using hc)]
  · rename_i hk
    have hopen := not_closed_of_kind hk (by decide)
    rw [field?_trimmed hopen]
    cases d.field? .name with
    | none => rfl
    | some name => simp
  · rfl

/-- A statement declares the same components. -/
theorem declarationsOf_trimmed (source : List Char) (s : Node) :
    declarationsOf source (trimmed s) = declarationsOf source s := by
  unfold declarationsOf
  rw [kind_trimmed, range_trimmed]
  split
  · rename_i hk
    have hk : s.kind = .exportStatement := by simpa using hk
    have hopen := not_closed_of_kind hk (by decide)
    rw [field?_trimmed hopen]
    cases s.field? .declaration with
    | none => rfl
    | some d => exact componentsOf_trimmed source s.range d
  · exact componentsOf_trimmed source s.range s

/-! ## Assignments -/

theorem isStringLiteral_trimmed (n : Node) : isStringLiteral (trimmed n) = isStringLiteral n := by
  unfold isStringLiteral
  rw [kind_trimmed]
  split
  · rfl
  · rename_i hk
    have hopen := not_closed_of_kind hk (by decide)
    rw [parts_trimmed hopen, List.all_map]
    simp only [Function.comp_def, kind_trimmed]
  · rfl

theorem valueOfRight_trimmed (source : List Char) (r : Node) :
    valueOfRight source (trimmed r) = valueOfRight source r := by
  simp only [valueOfRight, unwrap_trimmed, isStringLiteral_trimmed, range_trimmed]

/-- A statement makes the same assignment. -/
theorem assignmentOf_trimmed (source : List Char) (s : Node) :
    assignmentOf source (trimmed s) = assignmentOf source s := by
  unfold assignmentOf
  rw [kind_trimmed]
  by_cases hs : s.kind = .expressionStatement <;> [skip; simp [hs]]
  rw [parts_trimmed (not_closed_of_kind hs (by decide)), List.head?_map]
  cases s.parts.head? with
  | none => rfl
  | some e =>
    by_cases he : e.kind = .assignment <;> [skip; simp [he]]
    have hopen := not_closed_of_kind he (by decide)
    simp only [Option.map_some, Option.bind_eq_bind, Option.bind_some, field?_trimmed hopen,
      kind_trimmed]
    cases e.field? .left with
    | none => rfl
    | some l =>
      by_cases hl : l.kind = .member <;> [skip; simp [hl]]
      have hopen := not_closed_of_kind hl (by decide)
      simp only [Option.map_some, Option.bind_some, field?_trimmed hopen, kind_trimmed]
      cases l.field? .object <;> cases l.field? .property <;> cases e.field? .right <;>
        simp [valueOfRight_trimmed]

/-! ## Files -/

theorem statementsOf_trimmed (nodes : List Node) :
    statementsOf (nodes.map trimmed) =
      (statementsOf nodes).map fun (s, following) => (trimmed s, following.map trimmed) := by
  induction nodes with
  | nil => rfl
  | cons n nodes ih =>
    rw [List.map_cons, statementsOf, statementsOf, isPart_trimmed]
    split
    · rw [ih, List.map_cons]
    · exact ih

theorem pastComments_trimmed (row stop : Nat) (nodes : List Node) :
    pastComments row stop (nodes.map trimmed) = pastComments row stop nodes := by
  induction nodes generalizing stop with
  | nil => rfl
  | cons n nodes ih =>
    rw [List.map_cons, pastComments, pastComments, label_trimmed, start_trimmed, stop_trimmed, ih]

theorem insertionPoint_trimmed (s : Node) (following : List Node) :
    insertionPoint (trimmed s) (following.map trimmed) = insertionPoint s following := by
  rw [insertionPoint, stop_trimmed, pastComments_trimmed]
  rfl

/-- A file has the components it has without all that is not looked into. -/
theorem candidatesIn_trimmed (source : List Char) (nodes : List Node) :
    candidatesIn source (nodes.map trimmed) = candidatesIn source nodes := by
  have hdeclarations :
      declarationsIn source (nodes.map trimmed) = declarationsIn source nodes := by
    simp only [declarationsIn, statementsOf_trimmed, List.flatMap_map, declarationsOf_trimmed,
      insertionPoint_trimmed]
  have hassignments : assignmentsIn source (nodes.map trimmed) = assignmentsIn source nodes := by
    simp only [assignmentsIn, statementsOf_trimmed, List.filterMap_map, Function.comp_def,
      assignmentOf_trimmed]
  rw [candidatesIn, hdeclarations, hassignments]
  rfl

end Nameplate
