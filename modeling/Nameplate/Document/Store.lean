import Nameplate.Document.Basic
import Nameplate.Document.Kind

/-!
# All open documents

A `Store` has the documents that are open, each under its URI. Every operation is about one URI and
leaves all other documents as they are. The analyses that are made are numbered.
-/

namespace Nameplate

/-- A document in the store. Its version stands beside it too, where it can be read while the
document is analysed. -/
structure OpenDocument where
  version : Int
  document : Document
deriving Repr

/-- The open documents. -/
structure Store where
  documents : List (Uri × OpenDocument) := []
  /-- The number for the next analysis that is made. -/
  next : Nat := 0
deriving Repr, Inhabited

namespace Store

/-- The document that is open under a URI. -/
def get? (s : Store) (u : Uri) : Option OpenDocument :=
  (s.documents.find? fun d => d.1 == u).map Prod.snd

/-- Without the document under a URI. -/
def erase (s : Store) (u : Uri) : Store :=
  { s with documents := s.documents.filter fun d => d.1 != u }

/-- With a document under a URI, in the place of one that was there. -/
def insert (s : Store) (u : Uri) (d : OpenDocument) : Store :=
  { s with documents := (u, d) :: (s.erase u).documents }

/-! ## Operations -/

/-- Opens a document, in the place of one that was open. -/
def openDocument (s : Store) (u : Uri) (version : Int) (text : List Char) (language : String) :
    Store :=
  s.insert u ⟨version, .new u version text (isTsxDocument u language)⟩

/-- Changes a document; nothing happens if it is not open. -/
def change (s : Store) (u : Uri) (version : Int) (text : List Char) : Store :=
  match s.get? u with
  | some d =>
    let document := d.document.replace version text
    s.insert u ⟨document.version, document⟩
  | none => s

/-- Closes a document. -/
def close (s : Store) (u : Uri) : Store := s.erase u

/-- The analysis of a document, if it is open, and the store that keeps it. A number that was given
is not given again. -/
def analyze (s : Store) (u : Uri) : Option Made × Store :=
  match s.get? u with
  | some d =>
    let (a, document) := d.document.analyze s.next
    (some a, { s.insert u { d with document } with next := max s.next (a.number + 1) })
  | none => (none, s)

/-- Whether a document is open. -/
def isOpen (s : Store) (u : Uri) : Bool := (s.get? u).isSome

/-- The version of a document. -/
def version? (s : Store) (u : Uri) : Option Int := (s.get? u).map OpenDocument.version

/-- Where a document stands. -/
def state? (s : Store) (u : Uri) : Option DocumentState := (s.get? u).map fun d => d.document.state

/-! ## Looking up -/

@[simp] theorem get?_empty (u : Uri) (next : Nat) : (Store.mk [] next).get? u = none := rfl

theorem get?_erase_self (s : Store) (u : Uri) : (s.erase u).get? u = none := by
  simp [get?, erase]

@[simp] theorem get?_insert_self (s : Store) (u : Uri) (d : OpenDocument) :
    (s.insert u d).get? u = some d := by
  simp [get?, insert]

theorem get?_erase_of_ne (s : Store) {u v : Uri} (h : v ≠ u) : (s.erase u).get? v = s.get? v := by
  obtain ⟨ds, next⟩ := s
  simp only [get?, erase]
  induction ds with
  | nil => rfl
  | cons d ds ih =>
    by_cases hd : d.1 = u
    · have hv : (d.1 == v) = false := by simpa [hd] using fun e => h e.symm
      simp only [List.filter_cons, hd, bne_self_eq_false, Bool.false_eq_true, if_false]
      rw [List.find?_cons_of_neg (by simp [hv])]
      exact ih
    · have hk : (d.1 != u) = true := by simpa using hd
      simp only [List.filter_cons, hk, if_true, List.find?_cons]
      by_cases hv : (d.1 == v) = true
      · simp [hv]
      · simp only [Bool.not_eq_true] at hv
        simpa [hv] using ih

theorem get?_insert_of_ne (s : Store) {u v : Uri} (d : OpenDocument) (h : v ≠ u) :
    (s.insert u d).get? v = s.get? v := by
  rw [← get?_erase_of_ne s h]
  have hu : (u == v) = false := by simpa using fun e => h e.symm
  simp [get?, insert, hu]

@[simp] theorem get?_openDocument_self (s : Store) (u : Uri) (version : Int) (text : List Char)
    (language : String) :
    (s.openDocument u version text language).get? u =
      some ⟨version, .new u version text (isTsxDocument u language)⟩ := by
  simp [openDocument]

theorem get?_openDocument_of_ne (s : Store) {u v : Uri} (version : Int) (text : List Char)
    (language : String) (h : v ≠ u) :
    (s.openDocument u version text language).get? v = s.get? v :=
  get?_insert_of_ne s _ h

@[simp] theorem get?_change_self (s : Store) (u : Uri) (version : Int) (text : List Char) :
    (s.change u version text).get? u =
      (s.get? u).map fun d => ⟨version, d.document.replace version text⟩ := by
  cases h : s.get? u <;> simp [change, h, Document.replace]

theorem get?_change_of_ne (s : Store) {u v : Uri} (version : Int) (text : List Char)
    (h : v ≠ u) : (s.change u version text).get? v = s.get? v := by
  unfold change
  split
  · exact get?_insert_of_ne s _ h
  · rfl

@[simp] theorem get?_close_self (s : Store) (u : Uri) : (s.close u).get? u = none :=
  get?_erase_self s u

theorem get?_close_of_ne (s : Store) {u v : Uri} (h : v ≠ u) : (s.close u).get? v = s.get? v :=
  get?_erase_of_ne s h

@[simp] theorem get?_analyze_self (s : Store) (u : Uri) :
    (s.analyze u).2.get? u =
      (s.get? u).map fun d => { d with document := (d.document.analyze s.next).2 } := by
  cases h : s.get? u with
  | none => simp [analyze, h]
  | some d =>
    rw [analyze, h]
    exact get?_insert_self ..

theorem get?_analyze_of_ne (s : Store) {u v : Uri} (h : v ≠ u) :
    (s.analyze u).2.get? v = s.get? v := by
  unfold analyze
  split
  · exact get?_insert_of_ne s _ h
  · rfl

/-- What an analysis gives. -/
theorem analyze_fst (s : Store) (u : Uri) :
    (s.analyze u).1 = (s.get? u).map fun d => (d.document.analyze s.next).1 := by
  cases h : s.get? u <;> simp [analyze, h]

end Store

end Nameplate
