import Nameplate.Proofs.Component.Shifted
import Nameplate.Proofs.Naming.Batch
import Nameplate.Proofs.Naming.Literal

/-!
# A file read again

What a parser makes of a file whose components have been named: the nodes at its top are found
again, moved by the edits, and each insertion adds a statement.

* `opensSubstitution`: a template with this text has a substitution;
* `Reworded`: a literal that an edit replaces, and the literal that it becomes;
* `Becomes`: a node of the file before, and the node that it becomes;
* `Adds`: the statement that an insertion adds;
* `Reparsed`: a tree of the file before, and one of the file afterwards.
-/

namespace Nameplate.Naming

open Text (Edit slice byteLength)
open Text.Edit (moved shifted)
open Tsx (Node Moved)

/-! ## Templates -/

/-- Whether a dollar sign stands before a brace; a backslash takes the next character with it. -/
def opensSubstitution : List Char → Bool
  | [] => false
  | [_] => false
  | c :: d :: text =>
    if c = '\\' then opensSubstitution text
    else if c = '$' ∧ d = '\x7b' then true
    else opensSubstitution (d :: text)

theorem opensSubstitution_backslash (d : Char) (text : List Char) :
    opensSubstitution ('\\' :: d :: text) = opensSubstitution text := by
  simp [opensSubstitution]

theorem opensSubstitution_cons {c : Char} {text : List Char} (hc : c ≠ '\\')
    (hopen : ¬ (c = '$' ∧ text.head? = some '\x7b')) :
    opensSubstitution (c :: text) = opensSubstitution text := by
  cases text with
  | nil => rfl
  | cons d text =>
    rw [opensSubstitution, if_neg hc, if_neg (by simpa using hopen)]

/-- A text between backquotes has no substitution. -/
theorem opensSubstitution_escape (text : List Char) :
    opensSubstitution (escape '`' text) = false := by
  induction text with
  | nil => rfl
  | cons c text ih =>
    obtain ⟨d, -, he⟩ | ⟨hc, -, -, hopen, he⟩ := escape_cons_cases '`' c text
    · rw [he, opensSubstitution_backslash, ih]
    · rw [he, opensSubstitution_cons hc, ih]
      rintro ⟨rfl, hhead⟩
      exact hopen ⟨rfl, rfl, head?_escape hhead⟩

/-! ## The tree afterwards -/

/-- A literal that an edit replaces, and the literal that it becomes. A template has a substitution
only if its text opens one. -/
structure Reworded (edits : List Edit) (source' : List Char) (n n' : Node) : Prop where
  replaced : ∃ e ∈ edits, e.range = n.range ∧ e.range.start < e.range.stop
  template : (∃ p ∈ n'.parts, p.kind = .substitution) →
    ∃ body, slice source' n'.range = some ('`' :: (body ++ ['`'])) ∧ opensSubstitution body = true

/-- A node of a file, and the node that it becomes. -/
abbrev Becomes (edits : List NameEdit) (source' : List Char) : Node → Node → Prop :=
  Moved (moved (textEdits edits)) (Reworded (textEdits edits) source')

/-- The statement that an insertion adds: it starts behind the line ending, and is an assignment of
a string to the display name. -/
def Adds (lineEnding : String) (e : NameEdit) (offset : Nat) (s : Node) : Prop :=
  (s.label.named && !s.label.extra) = true ∧
  s.start.byte = offset + byteLength lineEnding.toList ∧
  ∃ a l o p r, Assigns s a l o p r ∧
    o.range = ⟨s.start.byte, s.start.byte + byteLength e.name.toList⟩ ∧
    p.range = ⟨o.stop.byte + 1, o.stop.byte + 12⟩ ∧
    r.kind = .string ∧ r.range = ⟨p.stop.byte + 3, offset + byteLength e.newText.toList - 1⟩

/-- The edits of components in the order of their places. -/
def inPlaces (edits : List NameEdit) : List NameEdit :=
  edits.mergeSort fun a b => a.range.start ≤ b.range.start

/-- `Rebuilt edits lineEnding source' before after nodes nodes'`: of the edits in their order, those
`before` have been seen and those `after` have not; the `nodes` that are left of the file become
`nodes'`. A node is found again where the edits move it, and an insertion adds a statement where its
text lands, which may stand among the old nodes in any way. -/
inductive Rebuilt (edits : List NameEdit) (lineEnding : String) (source' : List Char) :
    List NameEdit → List NameEdit → List Node → List Node → Prop where
  | done {before : List NameEdit} : Rebuilt edits lineEnding source' before [] [] []
  | kept {before after : List NameEdit} {n n' : Node} {nodes nodes' : List Node} :
      Becomes edits source' n n' →
      Rebuilt edits lineEnding source' before after nodes nodes' →
      Rebuilt edits lineEnding source' before after (n :: nodes) (n' :: nodes')
  | added {before after : List NameEdit} {e : NameEdit} {s : Node} {nodes nodes' : List Node} :
      e.range.start = e.range.stop →
      Adds lineEnding e (shifted (textEdits before) e.range.start) s →
      Rebuilt edits lineEnding source' (before ++ [e]) after nodes nodes' →
      Rebuilt edits lineEnding source' before (e :: after) nodes (s :: nodes')
  | replaced {before after : List NameEdit} {e : NameEdit} {nodes nodes' : List Node} :
      e.range.start < e.range.stop →
      Rebuilt edits lineEnding source' (before ++ [e]) after nodes nodes' →
      Rebuilt edits lineEnding source' before (e :: after) nodes nodes'

/-- A parser reads a file again after edits, and finds no fault in it. -/
structure Reparsed (edits : List NameEdit) (lineEnding : String) (source' : List Char)
    (root root' : Node) : Prop where
  clean : root'.label.hasError = false
  rebuilt : Rebuilt edits lineEnding source' [] (inPlaces edits) root.children root'.children

/-! ## Looking for a statement -/

section

variable {edits before after : List NameEdit} {lineEnding : String} {source' : List Char}
  {nodes nodes' : List Node}

/-- A statement is found again, if it is none that was added. -/
theorem Rebuilt.rel_find? (h : Rebuilt edits lineEnding source' before after nodes nodes')
    {p q : Node → Bool}
    (hkept : ∀ n ∈ nodes, ∀ n', Becomes edits source' n n' → p n = q n')
    (hadded : ∀ fs e gs, before ++ after = fs ++ e :: gs → ∀ s, e.range.start = e.range.stop →
      Adds lineEnding e (shifted (textEdits fs) e.range.start) s → q s = false) :
    Option.Rel (fun n n' => n ∈ nodes ∧ Becomes edits source' n n') (nodes.find? p)
      (nodes'.find? q) := by
  induction h with
  | done => exact .none
  | @kept before after n n' nodes nodes' hn _ ih =>
    rw [List.find?_cons, List.find?_cons, hkept n List.mem_cons_self n' hn]
    have hrest := ih (fun m hm => hkept m (List.mem_cons_of_mem _ hm)) hadded
    cases q n' with
    | true => exact .some ⟨List.mem_cons_self, hn⟩
    | false =>
      dsimp only
      generalize nodes.find? p = x at hrest ⊢
      generalize nodes'.find? q = y at hrest ⊢
      cases hrest with
      | none => exact .none
      | some h => exact .some ⟨List.mem_cons_of_mem _ h.1, h.2⟩
  | @added before after e s nodes nodes' hi hs _ ih =>
    rw [List.find?_cons, hadded before e after rfl s hi hs]
    exact ih hkept (by simpa using hadded)
  | replaced _ _ ih => exact ih hkept (by simpa using hadded)

/-- A statement that was added is found, if no other is looked for. -/
theorem Rebuilt.find?_added (h : Rebuilt edits lineEnding source' before after nodes nodes')
    {q : Node → Bool} {e : NameEdit} (he : e ∈ after) (hinsert : e.range.start = e.range.stop)
    (hkept : ∀ n ∈ nodes, ∀ n', Becomes edits source' n n' → q n' = false)
    (hadded : ∀ fs d gs, before ++ after = fs ++ d :: gs → ∀ s, d.range.start = d.range.stop →
      Adds lineEnding d (shifted (textEdits fs) d.range.start) s → q s = decide (d = e)) :
    ∃ fs gs s, before ++ after = fs ++ e :: gs ∧
      Adds lineEnding e (shifted (textEdits fs) e.range.start) s ∧ nodes'.find? q = some s := by
  induction h with
  | done => cases he
  | @kept before after n n' nodes nodes' hn _ ih =>
    rw [List.find?_cons, hkept n List.mem_cons_self n' hn]
    exact ih he (fun m hm => hkept m (List.mem_cons_of_mem _ hm)) hadded
  | @added before after d s nodes nodes' hi hs _ ih =>
    have hq := hadded before d after rfl s hi hs
    by_cases hde : d = e
    · subst hde
      refine ⟨before, after, s, rfl, hs, ?_⟩
      rw [List.find?_cons, hq, decide_eq_true rfl]
    · rw [List.find?_cons, hq, decide_eq_false hde]
      have hmem := (List.mem_cons.mp he).resolve_left (Ne.symm hde)
      obtain ⟨fs, gs, s, heq, hs, hf⟩ := ih hmem hkept (by simpa using hadded)
      exact ⟨fs, gs, s, by simpa using heq, hs, hf⟩
  | @replaced before after d nodes nodes' hi _ ih =>
    have hde : e ≠ d := by
      rintro rfl
      omega
    have hmem := (List.mem_cons.mp he).resolve_left hde
    obtain ⟨fs, gs, s, heq, hs, hf⟩ := ih hmem hkept (by simpa using hadded)
    exact ⟨fs, gs, s, by simpa using heq, hs, hf⟩

end

end Nameplate.Naming
