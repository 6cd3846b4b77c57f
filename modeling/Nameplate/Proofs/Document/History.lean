import Mathlib.Data.List.Induction
import Nameplate.Document.Store

/-!
# Histories of a store

A history is the list of the operations that a store has been asked for, the first one first.

* `Operation`, `Answer`: what a store can be asked, and what it says;
* `Store.step`, `Store.run`, `Store.answers`: one operation, and all operations of a history;
* `Since p q`: something happened in a history, and only certain things since;
* `Document.analyze_unnumbered`: what is said does not depend on the numbers of analyses;
* `Store.run_induction`: induction over the history of one document;
* `Store.answers_filter`: what is said about a document depends on the operations about it only.
-/

namespace Nameplate

/-- What a store can be asked. -/
inductive Operation where
  | opening (uri : Uri) (version : Int) (text : List Char) (language : String)
  | change (uri : Uri) (version : Int) (text : List Char)
  | close (uri : Uri)
  | analyze (uri : Uri)
  | version (uri : Uri)
  | state (uri : Uri)
deriving DecidableEq, Repr

/-- What a store says. Which object an analysis is, is no part of what it says. -/
inductive Answer where
  | done
  /-- Whether there was a document to change or to close. -/
  | known (open? : Bool)
  | analysis (analysis : Option Analysis)
  | version (version : Option Int)
  | state (state : Option DocumentState)
deriving DecidableEq, Repr

namespace Operation

/-- The document an operation is about. -/
def uri : Operation → Uri
  | opening u _ _ _ => u
  | change u _ _ => u
  | close u => u
  | analyze u => u
  | version u => u
  | state u => u

/-- The operation opens a document. -/
def Opens (u : Uri) : Operation → Prop
  | opening v _ _ _ => v = u
  | _ => False

/-- The operation changes a document. -/
def Changes (u : Uri) : Operation → Prop
  | change v _ _ => v = u
  | _ => False

/-- The operation closes a document. -/
def Closes (u : Uri) : Operation → Prop
  | close v => v = u
  | _ => False

/-- The operation gives a version to a document. -/
def Gives (u : Uri) (version : Int) : Operation → Prop
  | opening v given _ _ => v = u ∧ given = version
  | change v given _ => v = u ∧ given = version
  | _ => False

/-- The operation gives a document another text, or takes it away. -/
def Touches (u : Uri) (op : Operation) : Prop := op.Opens u ∨ op.Changes u ∨ op.Closes u

theorem Touches.uri_eq {op : Operation} {u : Uri} (h : op.Touches u) : op.uri = u := by
  cases op <;> simp [Touches, Opens, Changes, Closes] at h <;> exact h

/-- To analyse a document does not touch any. -/
theorem not_touches_analyze (u v : Uri) : ¬ (analyze u).Touches v := by
  simp [Touches, Opens, Changes, Closes]

end Operation

namespace Store

/-- One operation: what the store says, and the store afterwards. -/
def step (s : Store) : Operation → Answer × Store
  | .opening u version text language => (.done, s.openDocument u version text language)
  | .change u version text => (.known (s.isOpen u), s.change u version text)
  | .close u => (.known (s.isOpen u), s.close u)
  | .analyze u => (.analysis ((s.analyze u).1.map Made.analysis), (s.analyze u).2)
  | .version u => (.version (s.version? u), s)
  | .state u => (.state (s.state? u), s)

/-- The store after a history. -/
def run (s : Store) (ops : List Operation) : Store := ops.foldl (fun s op => (s.step op).2) s

/-- What a store says during a history. -/
def answers (s : Store) : List Operation → List (Operation × Answer)
  | [] => []
  | op :: ops => (op, (s.step op).1) :: answers (s.step op).2 ops

end Store

/-! ## One document -/

namespace Operation

/-- What an operation makes of the document it is about. An analysis that is made gets a number. -/
def after (number : Nat) : Operation → Option OpenDocument → Option OpenDocument
  | opening u given text language, _ =>
    some ⟨given, .new u given text (isTsxDocument u language)⟩
  | change _ given text, d => d.map fun d => ⟨given, d.document.replace given text⟩
  | close _, _ => none
  | analyze _, d => d.map fun d => { d with document := (d.document.analyze number).2 }
  | version _, d => d
  | state _, d => d

/-- What is said about the document. -/
def answer (number : Nat) : Operation → Option OpenDocument → Answer
  | opening .., _ => .done
  | change .., d => .known d.isSome
  | close _, d => .known d.isSome
  | analyze _, d => .analysis (d.map fun d => (d.document.analyze number).1.analysis)
  | version _, d => .version (d.map OpenDocument.version)
  | state _, d => .state (d.map fun d => d.document.state)

end Operation

/-! ## Without numbers -/

/-- An analysis without its number. -/
def Made.unnumbered (a : Made) : Made := { a with number := 0 }

/-- A document without the number of the analysis that is kept. -/
def Document.unnumbered (d : Document) : Document :=
  { d with analysis := d.analysis.map Made.unnumbered }

/-- An open document without the number of the analysis that is kept. -/
def OpenDocument.unnumbered (d : OpenDocument) : OpenDocument :=
  { d with document := d.document.unnumbered }

theorem Document.kept?_unnumbered (d : Document) :
    d.unnumbered.kept? = d.kept?.map Made.unnumbered := by
  rw [kept?, kept?, unnumbered, Option.filter_map]
  rfl

theorem Document.withTree_unnumbered (d : Document) :
    d.unnumbered.withTree = d.withTree.unnumbered := by
  cases ht : d.tree <;> simp [withTree, unnumbered, ht]

/-- Numbers do not matter for what an analysis says, and for what is kept but for its number. -/
theorem Document.analyze_unnumbered (d : Document) (number : Nat) : d.unnumbered.analyze 0 =
    ((d.analyze number).1.unnumbered, (d.analyze number).2.unnumbered) := by
  cases h : d.kept? with
  | some a =>
    rw [analyze_of_kept h, analyze_of_kept (by rw [kept?_unnumbered, h]; rfl)]
  | none =>
    have hnone : d.unnumbered.kept? = none := by rw [kept?_unnumbered, h]; rfl
    rw [analyze, analyze, h, hnone]
    cases hd : d.analyzable with
    | true =>
      simp only [show d.unnumbered.analyzable = true from hd, if_true, withTree_unnumbered]
      rfl
    | false =>
      simp only [show d.unnumbered.analyzable = false from hd]
      rfl

namespace Operation

theorem after_unnumbered (op : Operation) (number : Nat) (d : Option OpenDocument) :
    (op.after number d).map OpenDocument.unnumbered =
      op.after 0 (d.map OpenDocument.unnumbered) := by
  cases d with
  | none => cases op <;> rfl
  | some d =>
    cases op with
    | analyze u =>
      have hkept := congrArg Prod.snd (d.document.analyze_unnumbered number)
      exact congrArg (fun document => some { d with document }) hkept.symm
    | _ => rfl

theorem answer_unnumbered (op : Operation) (number : Nat) (d : Option OpenDocument) :
    op.answer number d = op.answer 0 (d.map OpenDocument.unnumbered) := by
  cases d with
  | none => cases op <;> rfl
  | some d =>
    cases op with
    | analyze u =>
      have hsaid := congrArg (fun x => x.1.analysis) (d.document.analyze_unnumbered number)
      exact congrArg (fun a => Answer.analysis (some a)) hsaid.symm
    | _ => rfl

end Operation

/-! ## Stores -/

namespace Store

theorem step_fst (s : Store) (op : Operation) :
    (s.step op).1 = op.answer s.next (s.get? op.uri) := by
  cases op with
  | analyze u =>
    rw [step, analyze_fst, Option.map_map]
    rfl
  | _ => rfl

theorem get?_step_self (s : Store) (op : Operation) :
    (s.step op).2.get? op.uri = op.after s.next (s.get? op.uri) := by
  cases op with
  | opening u version text language => exact s.get?_openDocument_self u version text language
  | change u version text => exact s.get?_change_self u version text
  | close u => exact s.get?_close_self u
  | analyze u => exact s.get?_analyze_self u
  | version u => rfl
  | state u => rfl

theorem get?_step_of_ne (s : Store) {op : Operation} {u : Uri} (h : op.uri ≠ u) :
    (s.step op).2.get? u = s.get? u := by
  cases op with
  | opening v version text language => exact s.get?_openDocument_of_ne version text language h.symm
  | change v version text => exact s.get?_change_of_ne version text h.symm
  | close v => exact s.get?_close_of_ne h.symm
  | analyze v => exact s.get?_analyze_of_ne h.symm
  | version v => rfl
  | state v => rfl

/-- What is said about a document, and what becomes of it, depends on the operations about it
only. -/
theorem answers_filter {s t : Store} {u : Uri}
    (h : (s.get? u).map OpenDocument.unnumbered = (t.get? u).map OpenDocument.unnumbered)
    (ops : List Operation) : (s.answers ops).filter (fun x => x.1.uri = u) =
      t.answers (ops.filter fun op => op.uri = u) := by
  induction ops generalizing s t with
  | nil => rfl
  | cons op ops ih =>
    by_cases hu : op.uri = u
    · have hnext : ((s.step op).2.get? u).map OpenDocument.unnumbered =
          ((t.step op).2.get? u).map OpenDocument.unnumbered := by
        rw [← hu, get?_step_self, get?_step_self, Operation.after_unnumbered,
          Operation.after_unnumbered, hu, h]
      have hsaid : (s.step op).1 = (t.step op).1 := by
        rw [step_fst, step_fst, Operation.answer_unnumbered, hu, h,
          ← Operation.answer_unnumbered op t.next]
      simp only [answers, List.filter_cons, hu, decide_true, if_true, hsaid, ih hnext]
    · have hnext : ((s.step op).2.get? u).map OpenDocument.unnumbered =
          (t.get? u).map OpenDocument.unnumbered := by rw [get?_step_of_ne s hu, h]
      simp only [answers, List.filter_cons, hu, decide_false, Bool.false_eq_true, if_false,
        ih hnext]

@[simp] theorem run_nil (s : Store) : s.run [] = s := rfl

@[simp] theorem run_append (s : Store) (a b : List Operation) :
    s.run (a ++ b) = (s.run a).run b := List.foldl_append

@[simp] theorem run_singleton (s : Store) (op : Operation) : s.run [op] = (s.step op).2 := rfl

/-- What becomes of one document in the course of a history. -/
theorem run_induction {u : Uri} {motive : List Operation → Option OpenDocument → Prop}
    (nil : motive [] none)
    (about : ∀ ops d op number, op.uri = u → motive ops d →
      motive (ops ++ [op]) (op.after number d))
    (other : ∀ ops d op, op.uri ≠ u → motive ops d → motive (ops ++ [op]) d)
    (ops : List Operation) : motive ops ((Store.run {} ops).get? u) := by
  induction ops using List.reverseRecOn with
  | nil => exact nil
  | append_singleton ops op ih =>
    rw [run_append, run_singleton]
    by_cases hu : op.uri = u
    · have hstep := (Store.run {} ops).get?_step_self op
      rw [hu] at hstep
      rw [hstep]
      exact about ops _ op _ hu ih
    · rw [get?_step_of_ne _ hu]
      exact other ops _ op hu ih

end Store

/-! ## What happened since -/

/-- Something happened in a history, and only certain things since. -/
def Since (p q : Operation → Prop) (ops : List Operation) : Prop :=
  ∃ before op after, ops = before ++ op :: after ∧ p op ∧ ∀ o ∈ after, q o

@[simp] theorem not_since_nil (p q : Operation → Prop) : ¬ Since p q [] := by
  rintro ⟨before, op, after, h, -⟩
  simp at h

/-- It happened last, or before that. -/
@[simp] theorem since_append_singleton {p q : Operation → Prop} {ops : List Operation}
    {op : Operation} : Since p q (ops ++ [op]) ↔ p op ∨ (q op ∧ Since p q ops) := by
  constructor
  · rintro ⟨before, o, after, h, hp, hq⟩
    rcases List.eq_nil_or_concat after with rfl | ⟨after, last, rfl⟩
    · obtain ⟨-, hop⟩ := List.append_inj' h rfl
      rw [List.singleton_inj.mp hop]
      exact .inl hp
    · obtain ⟨hops, hop⟩ := List.append_inj' (show ops ++ [op] = (before ++ o :: after) ++ [last] by
        simpa using h) rfl
      rw [List.singleton_inj.mp hop]
      exact .inr ⟨hq last (by simp), before, o, after, hops, hp, fun x hx => hq x (by simp [hx])⟩
  · rintro (hp | ⟨hq, before, o, after, rfl, hp, hafter⟩)
    · exact ⟨ops, op, [], rfl, hp, by simp⟩
    · refine ⟨before, o, after ++ [op], by simp, hp, fun x hx => ?_⟩
      rcases List.mem_append.mp hx with hx | hx
      · exact hafter x hx
      · rw [List.mem_singleton.mp hx]
        exact hq

end Nameplate
