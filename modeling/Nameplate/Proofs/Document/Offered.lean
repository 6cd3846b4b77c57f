import Nameplate.Document.Lens
import Nameplate.Proofs.Document.Current
import Nameplate.Proofs.Json.Record

/-!
# Lenses and what comes of them

A lens offers a command with arguments. Sent back, the arguments are read as they were meant, and
the command does what the lens says: it makes the edit that is planned for the component, and the
lens for all components makes all these edits.

* `ApplyRequest.read_toValue`, `ApplyAllRequest.read_toValue`: arguments are read back;
* `Operation.Fits`: a client numbers versions in 32 bits, and `Reference.fits_run`: so they stay;
* `Lens.About`: the lens of a component, and what its command answers;
* `Lens.AboutAll`: the lens of all components, and what its command answers;
* `Offered`: all lenses of a document;
* `lenses_offered`: after any history these are the lenses that a client gets.
-/

namespace Nameplate

open Json (Value)
open Naming (Plan PositionedEdit planFor editsFor)

/-! ## Arguments -/

/-- A number of 32 bits with a sign. -/
def FitsInt32 (n : Int) : Prop := -0x80000000 ≤ n ∧ n < 0x80000000

theorem int32_integer {n : Int} (h : FitsInt32 n) : Json.int32 (.integer n) = .ok n := by
  unfold FitsInt32 at h
  simp only [Json.int32]
  rw [if_pos (by simpa using h)]

theorem uri_string {u : Uri} (h : Uri.parse u.text = .ok u) :
    Json.uri (.string u.text) = .ok u := by
  simp only [Json.uri, h]

theorem text_string (s : String) : Json.text (.string s) = .ok s := rfl

/-- What is read passes. -/
theorem checked_ok {α : Type} {read : Json.Reader α} {v : Value} {a : α} (h : read v = .ok a) :
    Json.checked read v = .ok () := by
  rw [Json.checked, h]
  rfl

theorem ApplyRequest.read_toValue {r : ApplyRequest} (hu : Uri.parse r.uri.text = .ok r.uri)
    (hv : FitsInt32 r.version) : ApplyRequest.read r.toValue = .ok r := by
  obtain ⟨ms, hms, hvalue⟩ := Json.members_object "ApplyIdentificationArgs"
    [.of "uri" Json.uri, .of "bindingName" Json.text, .of "version" Json.int32]
    [("uri", .string r.uri.text), ("bindingName", .string r.name), ("version", .integer r.version)]
    (by simp)
    (by simp [Json.Field.of, checked_ok (uri_string hu), checked_ok (int32_integer hv),
      checked_ok (text_string r.name)])
    (by simp [Json.Field.of])
  have huri := hvalue _ (List.mem_cons_self ..)
  have hname := hvalue ("bindingName", .string r.name) (by simp)
  have hversion := hvalue ("version", .integer r.version) (by simp)
  rw [ApplyRequest.read, ApplyRequest.toValue, hms]
  simp only at huri hname hversion
  show (do pure (ApplyRequest.mk (← Json.uri (Json.valueOf ms "uri"))
    (← Json.text (Json.valueOf ms "bindingName")) (← Json.int32 (Json.valueOf ms "version")))) = _
  rw [huri, hname, hversion, uri_string hu, int32_integer hv]
  rfl

theorem ApplyAllRequest.read_toValue {r : ApplyAllRequest}
    (hu : Uri.parse r.uri.text = .ok r.uri) (hv : FitsInt32 r.version) :
    ApplyAllRequest.read r.toValue = .ok r := by
  obtain ⟨ms, hms, hvalue⟩ := Json.members_object "ApplyAllArgs"
    [.of "uri" Json.uri, .of "version" Json.int32]
    [("uri", .string r.uri.text), ("version", .integer r.version)]
    (by simp)
    (by simp [Json.Field.of, checked_ok (uri_string hu), checked_ok (int32_integer hv)])
    (by simp [Json.Field.of])
  have huri := hvalue _ (List.mem_cons_self ..)
  have hversion := hvalue ("version", .integer r.version) (by simp)
  rw [ApplyAllRequest.read, ApplyAllRequest.toValue, hms]
  simp only at huri hversion
  show (do pure (ApplyAllRequest.mk (← Json.uri (Json.valueOf ms "uri"))
    (← Json.int32 (Json.valueOf ms "version")))) = _
  rw [huri, hversion, uri_string hu, int32_integer hv]
  rfl

theorem readArguments_ok {α : Type} {read : Json.Reader α} {v : Value} {a : α}
    (h : read v = .ok a) : readArguments read [v] = .ok a := by
  rw [readArguments, h]

/-! ## Versions -/

/-- A client that numbers its versions in 32 bits. -/
def Operation.Fits : Operation → Prop
  | opening _ given _ _ => FitsInt32 given
  | change _ given _ => FitsInt32 given
  | _ => True

/-- The version of a page is one that the client has given. -/
theorem Reference.fits_run {ops : List Operation} (h : ∀ op ∈ ops, op.Fits) (u : Uri) :
    ∀ p ∈ Reference.run ops u, FitsInt32 p.version := by
  induction ops using List.reverseRecOn with
  | nil => rintro p ⟨⟩
  | append_singleton ops op ih =>
    have hop := h op (by simp)
    have hpage := ih fun op hop => h op (by simp [hop])
    rw [Reference.run_append_singleton, Reference.step]
    split
    · intro p hp
      cases op with
      | opening v given text language =>
        obtain rfl := Option.some.inj hp
        exact hop
      | change v given text =>
        obtain ⟨q, -, rfl⟩ := Option.map_eq_some_iff.mp hp
        exact hop
      | close v => cases hp
      | analyze v => exact hpage p hp
      | version v => exact hpage p hp
      | state v => exact hpage p hp
    · exact hpage

/-! ## Lenses -/

/-- The edits in the answer to a command. -/
def editsIn : Except RequestError (Option WorkspaceEdit) → List PositionedEdit
  | .ok (some edits) => edits.flatMap DocumentEdit.edits
  | _ => []

/-- What the command of a lens of a component answers, given the arguments of the lens. -/
def Lens.answer (s : Store) (label : String) (l : Lens) :
    Except RequestError (Option WorkspaceEdit) :=
  match l.action.arguments with
  | some arguments => do (applyOne s label (← readArguments ApplyRequest.read arguments)).1
  | none => .ok none

/-- The lens of a component. It stands at the declaration and runs the command that makes the edit
that is planned for the component; if none is planned it only shows something, and the command would
make no edit. -/
inductive Lens.About (s : Store) (label : String) (u : Uri) (p : Page) (c : Candidate) :
    Lens → Prop where
  | runs {l : Lens} {arguments : List Value} {e : Naming.NameEdit} :
      l.span = spanIn (.ofText p.text) c.range → l.action.runs = true →
      (planFor label p.lineEnding c).edit? = some e →
      l.action.command = applyCommand → l.action.arguments = some arguments →
      readArguments ApplyRequest.read arguments = .ok ⟨u, c.name, p.version⟩ →
      (applyOne s label ⟨u, c.name, p.version⟩).1 =
        .ok (some [⟨u, some p.version, [positionedIn (.ofText p.text) e]⟩]) →
      About s label u p c l
  | shown {l : Lens} :
      l.span = spanIn (.ofText p.text) c.range → l.action.runs = false →
      planFor label p.lineEnding c = .nothing → l.action.arguments = none →
      (applyOne s label ⟨u, c.name, p.version⟩).1 = .ok none →
      About s label u p c l

/-- The lens of all components, beside those of single ones. Its command makes the edits that these
make one by one, in their order, and its title says how many there are. -/
structure Lens.AboutAll (s : Store) (label : String) (u : Uri) (p : Page) (own : List Lens)
    (l : Lens) : Prop where
  command : l.action.command = applyAllCommand
  arguments : ∃ arguments, l.action.arguments = some arguments ∧
    readArguments ApplyAllRequest.read arguments = .ok ⟨u, p.version⟩
  answer : ∃ edits, (applyAll s label ⟨u, p.version⟩).1 =
      .ok (some [⟨u, some p.version, edits⟩]) ∧
    edits = own.flatMap (fun l => editsIn (l.answer s label)) ∧
    l.action.title = "Apply displayName to " ++ toString edits.length ++ " components"

/-- The lenses of a document: there are none if it is not open or has no components, and otherwise
there is one for each component in their order, behind one for all of them if at least two need an
edit. -/
structure Offered (s : Store) (label : String) (u : Uri) (page : Option Page)
    (found : Option (List Lens)) : Prop where
  none_iff : found = none ↔ page = none ∨ ∃ p, page = some p ∧ (p.analysis u).candidates = []
  lenses : ∀ ls, found = some ls → ∃ p own, page = some p ∧
    List.Forall₂ (Lens.About s label u p) (p.analysis u).candidates own ∧
    if 2 ≤ own.countP fun l => l.action.runs then ∃ l, ls = l :: own ∧ l.AboutAll s label u p own
    else ls = own

section

variable {ops : List Operation} {label : String} {u : Uri} {p : Page} {cs : List Candidate}
  {c : Candidate}

theorem runs_ofCandidate (label : String) (a : Analysis) (c : Candidate) :
    (Action.ofCandidate label a c).runs = true ↔ planFor label a.lineEnding c ≠ .nothing := by
  unfold Action.ofCandidate
  cases planFor label a.lineEnding c with
  | insert e => simp [Action.runs, applyCommand]
  | replace e => simp [Action.runs, applyCommand]
  | nothing =>
    simp only [ne_eq, not_true_eq_false, iff_false]
    split <;> simp [Action.runs, Action.shown]

/-- What the action of a component is if an edit is planned for it. -/
theorem ofCandidate_of_edit {a : Analysis} {e : Naming.NameEdit}
    (h : (planFor label a.lineEnding c).edit? = some e) :
    (Action.ofCandidate label a c).command = applyCommand ∧
      (Action.ofCandidate label a c).arguments =
        some [(ApplyRequest.mk a.uri c.name a.version).toValue] := by
  unfold Action.ofCandidate
  cases hp : planFor label a.lineEnding c with
  | insert e => exact ⟨rfl, rfl⟩
  | replace e => exact ⟨rfl, rfl⟩
  | nothing =>
    rw [hp] at h
    cases h

theorem arguments_of_nothing {a : Analysis} (h : planFor label a.lineEnding c = .nothing) :
    (Action.ofCandidate label a c).arguments = none := by
  unfold Action.ofCandidate
  rw [h]
  dsimp only
  split <;> rfl

/-- The page has components only if its text could be read. -/
theorem Page.components_of_candidates (h : (p.analysis u).candidates ≠ []) :
    p.components = .ok (p.analysis u).candidates := by
  cases hc : p.components with
  | ok cs => rw [candidates_analysis hc]
  | error fault =>
    rw [Analysis.candidates, outcome_analysis, hc] at h
    exact absurd rfl h

/-- The lens that is made for a component is about it. -/
theorem Lens.about_ofCandidate (hpage : Reference.run ops u = some p)
    (hc : p.components = .ok cs) (hmem : c ∈ cs) (hu : Uri.parse u.text = .ok u)
    (hv : FitsInt32 p.version) :
    (Lens.ofCandidate label (p.analysis u) c).About (Store.run {} ops) label u p c := by
  have hanswer : ∀ x, AnswersOne label ⟨u, c.name, p.version⟩ (Reference.run ops u) x →
      (applyOne (Store.run {} ops) label ⟨u, c.name, p.version⟩).1 = x :=
    fun x hx => @applyOne_of_answers ops label ⟨u, c.name, p.version⟩ x hx
  rw [hpage] at hanswer
  cases he : (planFor label p.lineEnding c).edit? with
  | none =>
    have hplan := Plan.edit?_eq_none.mp he
    refine .shown rfl ?_ hplan (arguments_of_nothing hplan)
      (hanswer _ (.upToDate rfl hc hmem rfl hplan))
    exact Bool.eq_false_iff.mpr fun hruns =>
      (runs_ofCandidate label (p.analysis u) c).mp hruns hplan
  | some e =>
    have hne : planFor label p.lineEnding c ≠ .nothing := fun hplan => by
      rw [hplan] at he
      cases he
    obtain ⟨hcommand, harguments⟩ := ofCandidate_of_edit (a := p.analysis u) he
    refine .runs rfl ((runs_ofCandidate label (p.analysis u) c).mpr hne) he hcommand harguments ?_
      (hanswer _ (.edit rfl hc hmem rfl he))
    exact readArguments_ok (ApplyRequest.read_toValue (r := ⟨u, c.name, p.version⟩) hu hv)

/-- What comes of the lens of a component is the edit that is planned for it. -/
theorem Lens.About.editsIn_answer {s : Store} {l : Lens} (h : l.About s label u p c) :
    editsIn (l.answer s label) =
      ((planFor label p.lineEnding c).edit?.map (positionedIn (.ofText p.text))).toList := by
  cases h with
  | runs _ _ he _ harguments hread hanswer =>
    have hl : l.answer s label = (applyOne s label ⟨u, c.name, p.version⟩).1 := by
      rw [Lens.answer, harguments]
      dsimp only
      rw [hread]
      rfl
    rw [hl, hanswer, he]
    rfl
  | shown _ _ hplan harguments _ =>
    rw [Lens.answer, harguments, hplan]
    rfl

theorem Lens.About.runs_eq {s : Store} {l : Lens} (h : l.About s label u p c) :
    l.action.runs = (planFor label p.lineEnding c).edit?.isSome := by
  cases h with
  | runs _ hruns he => rw [hruns, he, Option.isSome_some]
  | shown _ hruns hplan =>
    rw [hruns, hplan]
    rfl

/-- What comes of the lenses of all components one by one, and how many of them run a command. -/
theorem Lens.About.flatMap {s : Store} {own : List Lens}
    (h : List.Forall₂ (Lens.About s label u p) cs own) :
    own.flatMap (fun l => editsIn (l.answer s label)) =
        (editsFor cs label p.lineEnding).map (positionedIn (.ofText p.text)) ∧
      own.countP (fun l => l.action.runs) = (editsFor cs label p.lineEnding).length := by
  induction h with
  | nil => exact ⟨rfl, rfl⟩
  | @cons c l cs own hl _ ih =>
    obtain ⟨hedits, hcount⟩ := ih
    rw [List.flatMap_cons, List.countP_cons, hl.editsIn_answer, hl.runs_eq, hedits, hcount]
    simp only [editsFor, List.filterMap_cons]
    cases (planFor label p.lineEnding c).edit? with
    | none => exact ⟨rfl, rfl⟩
    | some e => exact ⟨rfl, rfl⟩

/-- The lens for all components is about all of them. -/
theorem Lens.aboutAll_ofAll {own : List Lens} {n : Nat} (hpage : Reference.run ops u = some p)
    (hc : p.components = .ok cs) (hu : Uri.parse u.text = .ok u) (hv : FitsInt32 p.version)
    (hown : List.Forall₂ (Lens.About (Store.run {} ops) label u p) cs own)
    (hn : n = own.countP fun l => l.action.runs) (hpos : 0 < n) :
    (Lens.mk default (.ofAll (p.analysis u) n)).AboutAll (Store.run {} ops) label u p own := by
  obtain ⟨hedits, hcount⟩ := Lens.About.flatMap hown
  constructor
  case command => rfl
  case arguments =>
    exact ⟨_, rfl, readArguments_ok (ApplyAllRequest.read_toValue (r := ⟨u, p.version⟩) hu hv)⟩
  case answer =>
    have hsome : ∃ c ∈ cs, planFor label p.lineEnding c ≠ .nothing := by
      by_contra hnone
      push Not at hnone
      rw [Naming.editsFor_eq_nil.mpr hnone] at hcount
      exact absurd (hn.trans hcount) (Nat.ne_of_gt hpos)
    have hanswer : AnswersAll label ⟨u, p.version⟩ (some p) _ := .edits rfl hc hsome
    rw [← hpage] at hanswer
    refine ⟨(editsFor cs label p.lineEnding).map (positionedIn (.ofText p.text)),
      @applyAll_of_answers ops _ _ _ hanswer, hedits.symm, ?_⟩
    rw [List.length_map, ← hcount, ← hn]
    rfl

end

/-! ## All lenses of a document -/

/-- The lenses that belong to a page. -/
def Page.lenses (label : String) (u : Uri) (p : Page) : Option (List Lens) :=
  if (p.analysis u).candidates.isEmpty then none else some (lensesOf label (p.analysis u))

/-- A client gets the lenses that belong to the current text, and the store keeps its analysis. -/
theorem lenses_run (ops : List Operation) (label : String) (u : Uri) :
    lenses (Store.run {} ops) label u =
      ((Reference.run ops u).bind (Page.lenses label u),
        Store.run {} (ops ++ [.analyze u])) := by
  obtain ⟨number, hanalysis⟩ := Store.analyze_run_eq ops u
  rw [lenses, hanalysis]
  cases Reference.run ops u with
  | none => rfl
  | some p => rfl

/-- The lenses that belong to a page are right in every store that has the page. -/
theorem offered_run {ops : List Operation} {label : String} {u : Uri} {page : Option Page}
    (hpage : Reference.run ops u = page) (hu : Uri.parse u.text = .ok u)
    (hv : ∀ p ∈ page, FitsInt32 p.version) :
    Offered (Store.run {} ops) label u page (page.bind (Page.lenses label u)) := by
  constructor
  case none_iff =>
    cases page with
    | none => simp
    | some p =>
      simp only [Option.bind_some, Page.lenses]
      by_cases hnil : (p.analysis u).candidates = []
      · simp [hnil]
      · simp [hnil]
  case lenses =>
    intro ls hls
    obtain ⟨p, rfl, h⟩ := Option.bind_eq_some_iff.mp hls
    unfold Page.lenses at h
    split at h <;> [cases h; skip]
    rename_i hne
    obtain rfl := Option.some.inj h
    have hc := Page.components_of_candidates (p := p) (u := u) (by simpa using hne)
    have hown : List.Forall₂ (Lens.About (Store.run {} ops) label u p) (p.analysis u).candidates
        ((p.analysis u).candidates.map (Lens.ofCandidate label (p.analysis u))) := by
      rw [List.forall₂_map_right_iff, List.forall₂_same]
      exact fun c hmem => Lens.about_ofCandidate hpage hc hmem hu (hv p rfl)
    refine ⟨p, _, rfl, hown, ?_⟩
    unfold lensesOf
    dsimp only
    split
    · rename_i htwo
      exact ⟨_, rfl, Lens.aboutAll_ofAll hpage hc hu (hv p rfl) hown rfl (by omega)⟩
    · rfl

/-- After any history a client gets the lenses that belong to the current text. What they offer is
what the commands do, both before the lenses were asked for and afterwards. -/
theorem lenses_offered (ops : List Operation) (label : String) (u : Uri)
    (hu : Uri.parse u.text = .ok u) (hv : ∀ op ∈ ops, op.Fits) :
    Offered (Store.run {} ops) label u (Reference.run ops u)
        (lenses (Store.run {} ops) label u).1 ∧
      Offered (lenses (Store.run {} ops) label u).2 label u (Reference.run ops u)
        (lenses (Store.run {} ops) label u).1 := by
  have hfits := Reference.fits_run hv u
  have hagain := congrFun (Reference.run_analyze ops u) u
  rw [lenses_run]
  exact ⟨offered_run rfl hu hfits, offered_run hagain hu hfits⟩

/-- A document that is opened, asked for and changed. -/
def sampleHistory (u : Uri) : List Operation :=
  [.opening u 3 "const A = () => 1;".toList "typescriptreact", .analyze u,
    .change u 2 "const A = () => 1;\nconst B = () => 2;".toList]

theorem lenses_offered_sample :
    let u : Uri := ⟨"file", some "", "/src/Card.tsx", none, none⟩
    let s := Store.run {} (sampleHistory u)
    let page : Page := ⟨2, "const A = () => 1;\nconst B = () => 2;".toList, true⟩
    Reference.run (sampleHistory u) u = some page ∧
      Offered s "X_" u (some page) (lenses s "X_" u).1 ∧
      Offered (lenses s "X_" u).2 "X_" u (some page) (lenses s "X_" u).1 := by
  intro u s page
  have hu : Uri.parse u.text = .ok u := by decide +kernel
  have hfits : ∀ op ∈ sampleHistory u, op.Fits := by
    simp [sampleHistory, Operation.Fits, FitsInt32]
  have hpage : Reference.run (sampleHistory u) u = some page := by decide +kernel
  rw [← hpage]
  exact ⟨rfl, lenses_offered (sampleHistory u) "X_" u hu hfits⟩

end Nameplate
