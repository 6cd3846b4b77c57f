import Nameplate.Proofs.Document.Identity
import Nameplate.Proofs.Document.Lifecycle

/-!
# What is kept does not show

A store keeps trees and analyses, and none of that can be told from its answers, but for one thing:
two analyses of a text that nobody has touched in between are the same object.

* `Transparent`: what a store says about a document;
* `Store.transparent_run`: it says so after any history.
-/

namespace Nameplate

/-- What a store says about a document after a history. -/
structure Transparent (u : Uri) (ops : List Operation) : Prop where
  /-- Its version is the one given when it was last opened or changed. -/
  version : ∀ version, (Store.run {} ops).version? u = some version ↔
    IsOpen u ops ∧ Since (·.Gives u version) (fun op => ¬ op.Opens u ∧ ¬ op.Changes u) ops
  /-- It has none exactly if it is not open. -/
  noVersion : (Store.run {} ops).version? u = none ↔ ¬ IsOpen u ops
  /-- Its analysis says what follows from its text as it is now. -/
  analysis : ((Store.run {} ops).analyze u).1.map Made.analysis = (Reference.run ops).analyze u
  /-- It was analysed, and neither opened nor changed nor closed since. -/
  analyzed : (Store.run {} ops).state? u = some .analyzed ↔
    IsOpen u ops ∧ Since (· = .analyze u) (fun op => ¬ op.Touches u) ops
  /-- It was analysed since it was opened, but changed and not analysed again since. -/
  stale : (Store.run {} ops).state? u = some .stale ↔
    IsOpen u ops ∧ Since (· = .analyze u) (fun op => ¬ op.Opens u ∧ ¬ op.Closes u) ops ∧
      Since (·.Changes u) (· ≠ .analyze u) ops
  /-- It was not analysed since it was opened. -/
  opened : (Store.run {} ops).state? u = some .opened ↔
    IsOpen u ops ∧ ¬ Since (· = .analyze u) (fun op => ¬ op.Opens u ∧ ¬ op.Closes u) ops
  /-- Its analysis is handed out again exactly as long as nothing touches it, -/
  reused : ∀ a between, ((Store.run {} ops).analyze u).1 = some a →
    (((Store.run {} (ops ++ .analyze u :: between)).analyze u).1 = some a ↔
      ∀ op ∈ between, ¬ op.Touches u)
  /-- and no other analysis, of whatever document, ever has its number. -/
  numbered : ∀ a between v b, ((Store.run {} ops).analyze u).1 = some a →
    ((Store.run {} (ops ++ .analyze u :: between)).analyze v).1 = some b →
    b.number = a.number → b = a
  /-- Operations about other documents make no difference. -/
  alone : (Store.answers {} ops).filter (fun x => x.1.uri = u) =
    Store.answers {} (ops.filter fun op => op.uri = u)

/-- Whatever was asked of a store, in whatever order and with whatever versions, what it keeps does
not show. -/
theorem Store.transparent_run (u : Uri) (ops : List Operation) : Transparent u ops := by
  have told := Store.told_run ops u
  constructor
  case version => exact told.version
  case noVersion =>
    rw [← told.isOpen, Store.version?, Option.map_eq_none_iff, Bool.not_eq_true,
      Option.isSome_eq_false_iff, Option.isNone_iff_eq_none]
  case analysis => exact Store.analyze_run ops u
  case analyzed => exact told.analyzed
  case stale => exact told.stale
  case opened => exact told.opened
  case reused => exact fun a between h => Store.analyze_again h between
  case numbered => exact fun a between v b h hlater => Store.analyze_numbered h hlater
  case alone => exact Store.answers_filter rfl ops

end Nameplate
