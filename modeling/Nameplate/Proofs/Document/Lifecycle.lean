import Nameplate.Proofs.Document.Reference

/-!
# What a history tells about a document

Whether a document is open, its version and where it stands can be read off its history.

* `IsOpen`: the document was opened and not closed since;
* `Told`: what a history tells about a document;
* `Told.after`: one more operation;
* `Store.told_run`: after every history a store says what the history tells.
-/

namespace Nameplate

/-- A document was opened and not closed since. -/
def IsOpen (u : Uri) (ops : List Operation) : Prop :=
  Since (·.Opens u) (fun op => ¬ op.Closes u) ops

/-- What a history tells about a document. -/
structure Told (u : Uri) (ops : List Operation) (d : Option OpenDocument) : Prop where
  sound : ∀ x ∈ d, x.Sound u
  isOpen : d.isSome = true ↔ IsOpen u ops
  /-- Its version is the one given by the last operation that opened or changed it. -/
  version : ∀ version, d.map OpenDocument.version = some version ↔
    IsOpen u ops ∧ Since (·.Gives u version) (fun op => ¬ op.Opens u ∧ ¬ op.Changes u) ops
  /-- It was not analysed since it was opened. -/
  opened : d.map (fun d => d.document.state) = some .opened ↔
    IsOpen u ops ∧ ¬ Since (· = .analyze u) (fun op => ¬ op.Opens u ∧ ¬ op.Closes u) ops
  /-- It was analysed, and neither opened nor changed nor closed since. -/
  analyzed : d.map (fun d => d.document.state) = some .analyzed ↔
    IsOpen u ops ∧ Since (· = .analyze u) (fun op => ¬ op.Touches u) ops
  /-- It was analysed since it was opened, but changed and not analysed again since. -/
  stale : d.map (fun d => d.document.state) = some .stale ↔
    IsOpen u ops ∧ Since (· = .analyze u) (fun op => ¬ op.Opens u ∧ ¬ op.Closes u) ops ∧
      Since (·.Changes u) (· ≠ .analyze u) ops

namespace Told

theorem nil (u : Uri) : Told u [] none := by
  constructor <;> simp [IsOpen]

variable {u : Uri} {ops : List Operation} {d : Option OpenDocument}

/-- An operation that neither touches nor analyses a document tells nothing about it. -/
theorem idle {op : Operation} (h : Told u ops d) (htouches : ¬ op.Touches u)
    (hanalyze : op ≠ .analyze u) : Told u (ops ++ [op]) d := by
  have hgives : ∀ version, ¬ op.Gives u version := by
    cases op <;> simp_all [Operation.Touches, Operation.Opens, Operation.Changes, Operation.Gives]
  simp only [Operation.Touches, not_or] at htouches
  obtain ⟨hopens, hchanges, hcloses⟩ := htouches
  have hisOpen : IsOpen u (ops ++ [op]) ↔ IsOpen u ops := by simp [IsOpen, hopens, hcloses]
  constructor
  case sound => exact h.sound
  case isOpen => rw [h.isOpen, hisOpen]
  case version =>
    intro version
    rw [h.version, hisOpen]
    simp [hopens, hchanges, hgives]
  case opened =>
    rw [h.opened, hisOpen]
    simp [hopens, hcloses, hanalyze]
  case analyzed =>
    rw [h.analyzed, hisOpen]
    simp [Operation.Touches, hopens, hcloses, hchanges, hanalyze]
  case stale =>
    rw [h.stale, hisOpen]
    simp [hopens, hcloses, hchanges, hanalyze]

theorem opening (ops : List Operation) (given : Int) (text : List Char) (language : String) :
    Told u (ops ++ [.opening u given text language])
      (some ⟨given, .new u given text (isTsxDocument u language)⟩) := by
  have hisOpen : IsOpen u (ops ++ [.opening u given text language]) := by
    simp [IsOpen, Operation.Opens]
  constructor
  case sound =>
    rintro x hx
    obtain rfl := Option.some.inj hx
    exact ⟨rfl, rfl, Document.sound_new ..⟩
  all_goals
    simp [hisOpen, Document.new, Operation.Opens, Operation.Changes, Operation.Touches,
      Operation.Gives]

theorem change (h : Told u ops d) (given : Int) (text : List Char) :
    Told u (ops ++ [.change u given text])
      (d.map fun d => ⟨given, d.document.replace given text⟩) := by
  have hisOpen : IsOpen u (ops ++ [.change u given text]) ↔ IsOpen u ops := by
    simp [IsOpen, Operation.Opens, Operation.Closes]
  constructor
  case sound => exact Operation.sound_after (.change u given text) 0 h.sound
  case isOpen => rw [hisOpen, ← h.isOpen, Option.isSome_map]
  case version =>
    intro version
    rw [hisOpen, ← h.isOpen]
    cases d <;> simp [Operation.Opens, Operation.Changes, Operation.Gives]
  case opened =>
    have hstate : (d.map fun d => (d.document.replace given text).state) = some .opened ↔
        d.map (fun d => d.document.state) = some .opened := by
      cases d with
      | none => simp
      | some d => cases hd : d.document.state <;> simp [Document.replace, hd]
    rw [Option.map_map, hisOpen]
    refine hstate.trans (h.opened.trans ?_)
    simp [Operation.Opens, Operation.Closes]
  case analyzed =>
    have hstate : (d.map fun d => (d.document.replace given text).state) ≠ some .analyzed := by
      cases d with
      | none => simp
      | some d => cases hd : d.document.state <;> simp [Document.replace, hd]
    rw [Option.map_map]
    refine iff_of_false hstate ?_
    simp [Operation.Touches, Operation.Changes]
  case stale =>
    have hstate : (d.map fun d => (d.document.replace given text).state) = some .stale ↔
        d.isSome = true ∧ ¬ d.map (fun d => d.document.state) = some .opened := by
      cases d with
      | none => simp
      | some d => cases hd : d.document.state <;> simp [Document.replace, hd]
    rw [Option.map_map, hisOpen]
    refine hstate.trans ?_
    rw [h.isOpen, h.opened]
    simp only [since_append_singleton, Operation.Opens, Operation.Closes, Operation.Changes,
      reduceCtorEq, ne_eq, not_false_eq_true, true_and, false_or, true_or, and_true]
    tauto

theorem close (ops : List Operation) : Told u (ops ++ [.close u]) none := by
  have hisOpen : ¬ IsOpen u (ops ++ [.close u]) := by
    simp [IsOpen, Operation.Opens, Operation.Closes]
  constructor <;> simp [hisOpen]

theorem analyze (h : Told u ops d) (number : Nat) : Told u (ops ++ [.analyze u])
    (d.map fun d => { d with document := (d.document.analyze number).2 }) := by
  have hisOpen : IsOpen u (ops ++ [.analyze u]) ↔ IsOpen u ops := by
    simp [IsOpen, Operation.Opens, Operation.Closes]
  have hstate : (d.map fun d => (d.document.analyze number).2.state) =
      d.map fun _ => .analyzed := by
    cases d with
    | none => rfl
    | some d =>
      obtain ⟨-, -, -, hstate⟩ := (h.sound d rfl).document.analyze_snd number
      exact congrArg some hstate
  constructor
  case sound => exact Operation.sound_after (.analyze u) number h.sound
  case isOpen => rw [hisOpen, ← h.isOpen, Option.isSome_map]
  case version =>
    intro version
    rw [hisOpen, Option.map_map]
    refine (h.version version).trans ?_
    simp [Operation.Opens, Operation.Changes, Operation.Gives]
  case opened =>
    rw [Option.map_map]
    refine iff_of_false (fun hd => ?_) (by simp)
    have := hstate.symm.trans hd
    simp at this
  case analyzed =>
    rw [Option.map_map, hisOpen, ← h.isOpen]
    refine (iff_of_eq (congrArg (· = some _) hstate)).trans ?_
    cases d <;> simp
  case stale =>
    rw [Option.map_map]
    refine iff_of_false (fun hd => ?_) (by simp [Operation.Changes])
    have := hstate.symm.trans hd
    simp at this

/-- One more operation about a document. -/
theorem after {op : Operation} (h : Told op.uri ops d) (number : Nat) :
    Told op.uri (ops ++ [op]) (op.after number d) := by
  cases op with
  | opening u given text language => exact opening ops given text language
  | change u given text => exact h.change given text
  | close u => exact close ops
  | analyze u => exact h.analyze number
  | version u =>
    exact h.idle (by simp [Operation.Touches, Operation.Opens, Operation.Changes,
      Operation.Closes]) (by simp)
  | state u =>
    exact h.idle (by simp [Operation.Touches, Operation.Opens, Operation.Changes,
      Operation.Closes]) (by simp)

/-- An operation about another document. -/
theorem other {op : Operation} (h : Told u ops d) (hu : op.uri ≠ u) :
    Told u (ops ++ [op]) d := by
  refine h.idle ?_ ?_
  · cases op <;>
      simp_all [Operation.uri, Operation.Touches, Operation.Opens, Operation.Changes,
        Operation.Closes]
  · rintro rfl
    exact hu rfl

end Told

/-- After every history a store says what the history tells. -/
theorem Store.told_run (ops : List Operation) (u : Uri) :
    Told u ops ((Store.run {} ops).get? u) := by
  refine run_induction (Told.nil u) ?_ ?_ ops
  · rintro ops d op number rfl h
    exact h.after number
  · exact fun ops d op hu h => h.other hu

end Nameplate
