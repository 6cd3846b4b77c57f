import Nameplate.Proofs.Document.History

/-!
# A store that keeps nothing

The same operations on a store that has the texts only, and analyses them anew each time.

* `Page`: a text that is open, with its version;
* `Reference`: a store of pages;
* `Document.Sound`, `OpenDocument.Sound`: what is kept beside a text is right;
* `Store.sound_run`: it is right after every history;
* `Store.page_run`, `Store.version?_run`, `Store.analyze_run`: a store has the pages of the other
  store, and gives the same versions and analyses.
-/

namespace Nameplate

/-! ## Pages -/

/-- A text that is open, and nothing that follows from it. -/
structure Page where
  version : Int
  text : List Char
  analyzable : Bool
deriving DecidableEq, Repr

/-- The analysis of a page. -/
def Page.analysis (u : Uri) (p : Page) : Analysis where
  uri := u
  version := p.version
  index := .ofText p.text
  outcome := if p.analyzable then .ofText p.text else .components []

/-- What an operation makes of the page it is about. -/
def Operation.page : Operation → Option Page → Option Page
  | opening u given text language, _ => some ⟨given, text, isTsxDocument u language⟩
  | change _ given text, p => p.map fun p => ⟨given, text, p.analyzable⟩
  | close _, _ => none
  | analyze _, p => p
  | version _, p => p
  | state _, p => p

/-- A store of pages. -/
def Reference : Type := Uri → Option Page

namespace Reference

/-- A store without pages. -/
def empty : Reference := fun _ => none

/-- One operation. -/
def step (r : Reference) (op : Operation) : Reference :=
  fun u => if op.uri = u then op.page (r u) else r u

/-- The store after a history. -/
def run (ops : List Operation) : Reference := ops.foldl step empty

/-- The analysis of a page, if there is one, made anew. -/
def analyze (r : Reference) (u : Uri) : Option Analysis := (r u).map (Page.analysis u)

theorem run_append_singleton (ops : List Operation) (op : Operation) :
    run (ops ++ [op]) = (run ops).step op := by
  rw [run, List.foldl_append]
  rfl

/-- To look at a page does not change it. -/
theorem run_analyze (ops : List Operation) (u : Uri) : run (ops ++ [.analyze u]) = run ops := by
  rw [run_append_singleton]
  funext v
  exact ite_self _

end Reference

/-! ## What is kept -/

namespace Document

/-- The page of a document. -/
def page (d : Document) : Page := ⟨d.version, d.text, d.analyzable⟩

/-- What is kept about a text is what follows from the text. -/
structure Sound (d : Document) : Prop where
  tree : ∀ t ∈ d.tree, t = Tsx.parse d.text
  analysis : ∀ a ∈ d.analysis, a.analysis = d.fresh
  state : d.state = .analyzed ↔ d.analysis.isSome

theorem fresh_eq (d : Document) : d.fresh = d.page.analysis d.uri := rfl

theorem sound_new (u : Uri) (version : Int) (text : List Char) (analyzable : Bool) :
    (new u version text analyzable).Sound where
  tree := by simp [new]
  analysis := by simp [new]
  state := by simp [new]

theorem sound_replace (d : Document) (version : Int) (text : List Char) :
    (d.replace version text).Sound where
  tree := by simp [replace]
  analysis := by simp [replace]
  state := by
    simp only [replace, Option.isSome_none, Bool.false_eq_true, iff_false]
    split
    · decide
    · assumption

/-- An analysis of the right text has the right version. -/
theorem Sound.kept?_eq {d : Document} (h : d.Sound) : d.kept? = d.analysis := by
  cases ha : d.analysis with
  | none => simp [kept?, ha]
  | some a =>
    rw [kept?, ha, Option.filter_some, if_pos]
    rw [h.analysis a ha]
    exact beq_self_eq_true d.version

/-- The tree of a document is the tree of its text. -/
theorem Sound.withTree_eq {d : Document} (h : d.Sound) :
    d.withTree = { d with tree := some (Tsx.parse d.text) } := by
  unfold withTree
  split
  · rename_i t ht
    rw [← h.tree t ht, ← ht]
  · rfl

/-- An analysis, kept or not, says what follows from the text as it is now, and it is kept
afterwards. -/
theorem Sound.analyze_eq {d : Document} (h : d.Sound) (number : Nat) :
    ∃ tree made, (∀ t ∈ tree, t = Tsx.parse d.text) ∧ made.analysis = d.fresh ∧
      d.analyze number = (made, { d with tree, analysis := some made, state := .analyzed }) := by
  cases ha : d.analysis with
  | some a =>
    refine ⟨d.tree, a, h.tree, h.analysis a ha, ?_⟩
    have hstate := h.state.mpr (by rw [ha]; rfl)
    have hsame : { d with analysis := some a, state := .analyzed } = d := by
      rw [← ha, ← hstate]
    rw [analyze, h.kept?_eq.trans ha, hsame]
  | none =>
    have hkept : d.kept? = none := h.kept?_eq.trans ha
    cases hd : d.analyzable with
    | true =>
      refine ⟨some (Tsx.parse d.text), ⟨number, d.fresh⟩, by simp, rfl, ?_⟩
      simp [analyze, hkept, hd, h.withTree_eq, outcome, fresh, Outcome.ofText]
    | false =>
      refine ⟨d.tree, ⟨number, d.fresh⟩, h.tree, rfl, ?_⟩
      simp [analyze, hkept, hd, fresh]

theorem Sound.analyze_fst {d : Document} (h : d.Sound) (number : Nat) :
    (d.analyze number).1.analysis = d.fresh := by
  obtain ⟨tree, made, -, hmade, he⟩ := h.analyze_eq number
  rw [he, hmade]

theorem Sound.analyze_snd {d : Document} (h : d.Sound) (number : Nat) :
    (d.analyze number).2.Sound ∧ (d.analyze number).2.page = d.page ∧
      (d.analyze number).2.uri = d.uri ∧ (d.analyze number).2.state = .analyzed := by
  obtain ⟨tree, made, ht, hmade, he⟩ := h.analyze_eq number
  rw [he]
  exact ⟨⟨ht, fun a ha => Option.some.inj ha ▸ hmade, by simp⟩, rfl, rfl, rfl⟩

end Document

/-- Both versions of a document are the same, and what is kept is right. -/
structure OpenDocument.Sound (u : Uri) (d : OpenDocument) : Prop where
  version : d.version = d.document.version
  uri : d.document.uri = u
  document : d.document.Sound

/-- An operation leaves what is kept right. -/
theorem Operation.sound_after (op : Operation) (number : Nat) {d : Option OpenDocument}
    (h : ∀ x ∈ d, x.Sound op.uri) : ∀ x ∈ op.after number d, x.Sound op.uri := by
  cases op with
  | opening u given text language =>
    rintro x hx
    obtain rfl := Option.some.inj hx
    exact ⟨rfl, rfl, Document.sound_new ..⟩
  | change u given text =>
    rintro x hx
    obtain ⟨y, hy, rfl⟩ := Option.map_eq_some_iff.mp hx
    exact ⟨rfl, (h y hy).uri, Document.sound_replace ..⟩
  | close u => rintro x ⟨⟩
  | analyze u =>
    rintro x hx
    obtain ⟨y, hy, rfl⟩ := Option.map_eq_some_iff.mp hx
    obtain ⟨hsound, hpage, huri, -⟩ := (h y hy).document.analyze_snd number
    exact ⟨(h y hy).version.trans (congrArg Page.version hpage.symm), huri.trans (h y hy).uri,
      hsound⟩
  | version u => exact h
  | state u => exact h

namespace Store

/-- After every history all that is kept is right. -/
theorem sound_run (ops : List Operation) (u : Uri) :
    ∀ d ∈ (Store.run {} ops).get? u, d.Sound u := by
  refine run_induction (motive := fun _ d => ∀ x ∈ d, x.Sound u) ?nil ?about ?other ops
  case nil => simp
  case about =>
    rintro ops d op number rfl hd
    exact op.sound_after number hd
  case other => exact fun ops d op _ hd => hd

/-- A store has the texts and versions of the store that keeps nothing. -/
theorem page_run (ops : List Operation) (u : Uri) :
    ((Store.run {} ops).get? u).map (fun d => d.document.page) = Reference.run ops u := by
  refine (run_induction (motive := fun ops d => (∀ x ∈ d, x.Sound u) ∧
    d.map (fun d => d.document.page) = Reference.run ops u) ?nil ?about ?other ops).2
  case nil => exact ⟨by simp, rfl⟩
  case about =>
    rintro ops d op number rfl ⟨hsound, hd⟩
    refine ⟨op.sound_after number hsound, ?_⟩
    rw [Reference.run_append_singleton, Reference.step, if_pos rfl, ← hd]
    cases op with
    | analyze u =>
      cases d with
      | none => rfl
      | some d =>
        obtain ⟨-, hpage, -⟩ := (hsound d rfl).document.analyze_snd number
        exact congrArg some hpage
    | opening u given text language => rfl
    | change u given text =>
      cases d with
      | none => rfl
      | some d => rfl
    | close u => rfl
    | version u => rfl
    | state u => rfl
  case other =>
    rintro ops d op hu ⟨hsound, hd⟩
    refine ⟨hsound, ?_⟩
    rw [Reference.run_append_singleton, Reference.step, if_neg hu, hd]

/-- The version that can be read at any time is the version of the text. -/
theorem version?_run (ops : List Operation) (u : Uri) :
    (Store.run {} ops).version? u = (Reference.run ops u).map Page.version := by
  rw [version?, ← page_run, Option.map_map]
  exact Option.map_congr fun d hd => (sound_run ops u d hd).version

/-- A store gives the analyses of the store that keeps nothing. -/
theorem analyze_run (ops : List Operation) (u : Uri) :
    ((Store.run {} ops).analyze u).1.map Made.analysis = (Reference.run ops).analyze u := by
  rw [analyze_fst, Option.map_map, Reference.analyze, ← page_run, Option.map_map]
  refine Option.map_congr fun d hd => ?_
  have hsound := sound_run ops u d hd
  rw [Function.comp_apply, hsound.document.analyze_fst, Document.fresh_eq, hsound.uri]
  rfl

/-- An analysis is one more operation. -/
theorem analyze_run_eq (ops : List Operation) (u : Uri) :
    ∃ number, (Store.run {} ops).analyze u =
      ((Reference.run ops u).map fun p => ⟨number, p.analysis u⟩,
        Store.run {} (ops ++ [.analyze u])) := by
  have hsaid := analyze_run ops u
  rw [Reference.analyze] at hsaid
  cases hmade : ((Store.run {} ops).analyze u).1 with
  | none =>
    rw [hmade, Option.map_none, eq_comm, Option.map_eq_none_iff] at hsaid
    exact ⟨0, Prod.ext (by rw [hmade, hsaid]; rfl) (by rw [run_append]; rfl)⟩
  | some a =>
    rw [hmade, Option.map_some, eq_comm, Option.map_eq_some_iff] at hsaid
    obtain ⟨p, hp, ha⟩ := hsaid
    exact ⟨a.number, Prod.ext (by rw [hmade, hp, Option.map_some, ha]) (by rw [run_append]; rfl)⟩

end Store

end Nameplate
