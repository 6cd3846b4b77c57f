import Mathlib.Tactic.Push
import Nameplate.Document.Command
import Nameplate.Proofs.Component.Found
import Nameplate.Proofs.Document.Reference

/-!
# Commands about the current text

A command is refused unless its client has seen the text as it is now, and otherwise answered from
that text alone, whatever has been asked of the store before.

* `Refused`: why a command is refused, in the order in which the reasons count;
* `AnswersOne`, `AnswersAll`: what the two commands answer, said about pages;
* `Undisturbed`: what a command does to the store;
* `confirm_applyOne`, `confirm_applyAll`: to check the version once more refuses nothing;
* `commands_current`: the commands answer in this way after any history.
-/

namespace Nameplate

open Naming (planFor editsFor editsFor_eq_nil)

/-! ## Pages -/

namespace Page

/-- The components of a page, or the fault in its text. -/
def components (p : Page) : Except Fault (List Candidate) :=
  if p.analyzable then analyzeText p.text else .ok []

def lineEnding (p : Page) : String := Text.lineEnding p.text

/-- The outcome of an analysis says what the components are. -/
theorem outcome_analysis (u : Uri) (p : Page) :
    (p.analysis u).outcome =
      match p.components with
      | .ok cs => .components cs
      | .error fault => .failure fault.toError := by
  unfold analysis components
  split
  · cases h : analyzeTree (Tsx.parse p.text) p.text with
    | ok cs => simp only [Outcome.ofText, Outcome.ofTree, analyzeText, h]
    | error fault => simp only [Outcome.ofText, Outcome.ofTree, analyzeText, h]
  · rfl

theorem candidates_analysis {p : Page} {cs : List Candidate} (h : p.components = .ok cs) (u : Uri) :
    (p.analysis u).candidates = cs := by
  rw [Analysis.candidates, outcome_analysis, h]
  rfl

/-- The components of a page have different names. -/
theorem components_pairwise {p : Page} {cs : List Candidate} (h : p.components = .ok cs) :
    cs.Pairwise fun c d => c.name ≠ d.name := by
  unfold components at h
  split at h
  · rw [analyzeText] at h
    cases he : (Tsx.parse p.text).label.hasError with
    | false =>
      rw [analyzeTree_eq he] at h
      obtain rfl := Except.ok.inj h
      exact candidatesIn_pairwise ..
    | true =>
      rw [analyzeTree, if_pos he] at h
      cases h
  · obtain rfl := Except.ok.inj h
    exact List.Pairwise.nil

/-- The component with a name is found by it. -/
theorem candidate?_analysis {p : Page} {cs : List Candidate} {c : Candidate}
    (h : p.components = .ok cs) (hc : c ∈ cs) (u : Uri) :
    (p.analysis u).candidate? c.name = some c := by
  rw [Analysis.candidate?, candidates_analysis h]
  cases hfind : cs.find? (fun d => d.name == c.name) with
  | none => exact absurd (beq_self_eq_true c.name) (by simpa using List.find?_eq_none.mp hfind c hc)
  | some d =>
    have hname : d.name = c.name := by simpa using List.find?_some hfind
    rw [List.inj_on_of_nodup_map (List.pairwise_map.mpr (components_pairwise h))
      (List.mem_of_find?_eq_some hfind) hc hname]

theorem candidate?_analysis_eq_none {p : Page} {cs : List Candidate} {name : String}
    (h : p.components = .ok cs) (u : Uri) :
    (p.analysis u).candidate? name = none ↔ ∀ c ∈ cs, c.name ≠ name := by
  rw [Analysis.candidate?, candidates_analysis h, List.find?_eq_none]
  simp

end Page

/-! ## What a command should answer -/

/-- Why a command about a version of a document is refused. -/
inductive Refused (u : Uri) (version : Int) : Option Page → RequestError → Prop where
  | notOpen : Refused u version none (.documentNotOpen u)
  | stale {p : Page} : p.version ≠ version →
      Refused u version (some p) (.staleRequest version p.version)
  | unparsable {p : Page} {fault : Fault} : p.version = version → p.components = .error fault →
      Refused u version (some p) (.parseFailure fault.toError)

/-- What the command about one component answers. -/
inductive AnswersOne (label : String) (r : ApplyRequest) :
    Option Page → Except RequestError (Option WorkspaceEdit) → Prop where
  | refused {page : Option Page} {e : RequestError} : Refused r.uri r.version page e →
      AnswersOne label r page (.error e)
  | unknown {p : Page} {cs : List Candidate} : p.version = r.version → p.components = .ok cs →
      (∀ c ∈ cs, c.name ≠ r.name) →
      AnswersOne label r (some p) (.error (.unknownComponent r.name))
  | upToDate {p : Page} {cs : List Candidate} {c : Candidate} : p.version = r.version →
      p.components = .ok cs → c ∈ cs → c.name = r.name →
      planFor label p.lineEnding c = .nothing → AnswersOne label r (some p) (.ok none)
  | edit {p : Page} {cs : List Candidate} {c : Candidate} {e : Naming.NameEdit} :
      p.version = r.version → p.components = .ok cs → c ∈ cs → c.name = r.name →
      (planFor label p.lineEnding c).edit? = some e →
      AnswersOne label r (some p)
        (.ok (some [⟨r.uri, some r.version, [positionedIn (.ofText p.text) e]⟩]))

/-- What the command about all components answers. -/
inductive AnswersAll (label : String) (r : ApplyAllRequest) :
    Option Page → Except RequestError (Option WorkspaceEdit) → Prop where
  | refused {page : Option Page} {e : RequestError} : Refused r.uri r.version page e →
      AnswersAll label r page (.error e)
  | upToDate {p : Page} {cs : List Candidate} : p.version = r.version → p.components = .ok cs →
      (∀ c ∈ cs, planFor label p.lineEnding c = .nothing) → AnswersAll label r (some p) (.ok none)
  | edits {p : Page} {cs : List Candidate} : p.version = r.version → p.components = .ok cs →
      (∃ c ∈ cs, planFor label p.lineEnding c ≠ .nothing) →
      AnswersAll label r (some p) (.ok (some [⟨r.uri, some r.version,
        (cs.filterMap fun c => (planFor label p.lineEnding c).edit?).map
          (positionedIn (.ofText p.text))⟩]))

/-! ## The current analysis -/

section

variable {ops : List Operation} {u : Uri} {version : Int} {p : Page}

theorem currentAnalysis_notOpen (h : Reference.run ops u = none) :
    currentAnalysis (Store.run {} ops) u version =
      (.error (.documentNotOpen u), Store.run {} ops) := by
  rw [currentAnalysis, ensureCurrent, Store.version?_run, h]
  rfl

theorem currentAnalysis_stale (h : Reference.run ops u = some p) (hv : p.version ≠ version) :
    currentAnalysis (Store.run {} ops) u version =
      (.error (.staleRequest version p.version), Store.run {} ops) := by
  rw [currentAnalysis, ensureCurrent, Store.version?_run, h, Option.map_some]
  simp only [if_neg hv]

/-- The two looks at the version never disagree. -/
theorem currentAnalysis_current (h : Reference.run ops u = some p) (hv : p.version = version) :
    currentAnalysis (Store.run {} ops) u version =
      (match p.components with
        | .ok _ => .ok (p.analysis u)
        | .error fault => .error (.parseFailure fault.toError),
        ((Store.run {} ops).analyze u).2) := by
  obtain ⟨number, hanalysis⟩ := Store.analyze_run_eq ops u
  rw [h, Option.map_some] at hanalysis
  rw [currentAnalysis, ensureCurrent, Store.version?_run, h, Option.map_some, hanalysis]
  simp only [if_pos hv]
  simp only [show (p.analysis u).version = version from hv, ne_eq, not_true_eq_false, if_false]
  rw [Page.outcome_analysis]
  cases p.components with
  | ok cs => rfl
  | error fault => rfl

/-- A command that should be refused has no analysis. -/
theorem currentAnalysis_refused {e : RequestError} (h : Refused u version (Reference.run ops u) e) :
    (currentAnalysis (Store.run {} ops) u version).1 = .error e := by
  generalize hpage : Reference.run ops u = page at h
  cases h with
  | notOpen => rw [currentAnalysis_notOpen hpage]
  | stale hv => rw [currentAnalysis_stale hpage hv]
  | unparsable hv hc => rw [currentAnalysis_current hpage hv, hc]

/-- A command that should not be refused has the analysis of the page. -/
theorem currentAnalysis_ok {cs : List Candidate} (h : Reference.run ops u = some p)
    (hv : p.version = version) (hc : p.components = .ok cs) :
    (currentAnalysis (Store.run {} ops) u version).1 = .ok (p.analysis u) := by
  rw [currentAnalysis_current h hv, hc]

/-- A command is refused, or there is a page that it is about. -/
theorem refused_or_ready (page : Option Page) (u : Uri) (version : Int) :
    (∃ e, Refused u version page e) ∨
      ∃ p cs, page = some p ∧ p.version = version ∧ p.components = .ok cs := by
  cases page with
  | none => exact .inl ⟨_, .notOpen⟩
  | some p =>
    by_cases hv : p.version = version
    · cases hc : p.components with
      | ok cs => exact .inr ⟨p, cs, rfl, hv, hc⟩
      | error fault => exact .inl ⟨_, .unparsable hv hc⟩
    · exact .inl ⟨_, .stale hv⟩

end

/-! ## Answers -/

section

variable {ops : List Operation} {label : String}

theorem applyOne_eq (s : Store) (label : String) (r : ApplyRequest) :
    applyOne s label r = ((currentAnalysis s r.uri r.version).1.bind (editForOne label r),
      (currentAnalysis s r.uri r.version).2) := by
  unfold applyOne
  split
  · rename_i h
    rw [h]
    rfl
  · rename_i h
    rw [h]
    rfl

theorem applyAll_eq (s : Store) (label : String) (r : ApplyAllRequest) :
    applyAll s label r = ((currentAnalysis s r.uri r.version).1.map (editForAll label r.uri),
      (currentAnalysis s r.uri r.version).2) := by
  unfold applyAll
  split
  · rename_i h
    rw [h]
    rfl
  · rename_i h
    rw [h]
    rfl

/-- What the command about one component should answer it answers. -/
theorem applyOne_of_answers {r : ApplyRequest} {x : Except RequestError (Option WorkspaceEdit)}
    (h : AnswersOne label r (Reference.run ops r.uri) x) :
    (applyOne (Store.run {} ops) label r).1 = x := by
  rw [applyOne_eq]
  dsimp only
  generalize hpage : Reference.run ops r.uri = page at h
  cases h with
  | refused he =>
    rw [currentAnalysis_refused (hpage ▸ he)]
    rfl
  | unknown hv hc hnone =>
    rw [currentAnalysis_ok hpage hv hc, Except.bind, editForOne,
      (Page.candidate?_analysis_eq_none hc r.uri).mpr hnone]
  | @upToDate p cs c hv hc hmem hname hplan =>
    rw [currentAnalysis_ok hpage hv hc, Except.bind, editForOne, ← hname,
      Page.candidate?_analysis hc hmem]
    show Except.ok ((planFor label p.lineEnding c).edit?.map _) = _
    rw [hplan]
    rfl
  | @edit p cs c e hv hc hmem hname hplan =>
    rw [currentAnalysis_ok hpage hv hc, Except.bind, editForOne, ← hname,
      Page.candidate?_analysis hc hmem]
    show Except.ok ((planFor label p.lineEnding c).edit?.map _) = _
    rw [hplan, ← hv]
    rfl

/-- The command about one component has an answer to everything. -/
theorem AnswersOne.total (label : String) (r : ApplyRequest) (page : Option Page) :
    ∃ x, AnswersOne label r page x := by
  rcases refused_or_ready page r.uri r.version with ⟨e, he⟩ | ⟨p, cs, rfl, hv, hc⟩
  · exact ⟨_, .refused he⟩
  · by_cases hnone : ∀ c ∈ cs, c.name ≠ r.name
    · exact ⟨_, .unknown hv hc hnone⟩
    · push Not at hnone
      obtain ⟨c, hmem, hname⟩ := hnone
      cases hplan : planFor label p.lineEnding c with
      | nothing => exact ⟨_, .upToDate hv hc hmem hname hplan⟩
      | insert e => exact ⟨_, .edit hv hc hmem hname (by rw [hplan]; rfl)⟩
      | replace e => exact ⟨_, .edit hv hc hmem hname (by rw [hplan]; rfl)⟩

/-- What the command about all components should answer it answers. -/
theorem applyAll_of_answers {r : ApplyAllRequest} {x : Except RequestError (Option WorkspaceEdit)}
    (h : AnswersAll label r (Reference.run ops r.uri) x) :
    (applyAll (Store.run {} ops) label r).1 = x := by
  rw [applyAll_eq]
  dsimp only
  generalize hpage : Reference.run ops r.uri = page at h
  cases h with
  | refused he =>
    rw [currentAnalysis_refused (hpage ▸ he)]
    rfl
  | @upToDate p cs hv hc hnone =>
    rw [currentAnalysis_ok hpage hv hc, Except.map, editForAll, Page.candidates_analysis hc]
    have hnil : editsFor cs label (p.analysis r.uri).lineEnding = [] := editsFor_eq_nil.mpr hnone
    rw [hnil]
    rfl
  | @edits p cs hv hc hsome =>
    rw [currentAnalysis_ok hpage hv hc, Except.map, editForAll, Page.candidates_analysis hc]
    have hne : ¬ editsFor cs label (p.analysis r.uri).lineEnding = [] := by
      rw [editsFor_eq_nil]
      push Not
      exact hsome
    simp only [List.isEmpty_iff, if_neg hne, ← hv]
    rfl

/-- The command about all components has an answer to everything. -/
theorem AnswersAll.total (label : String) (r : ApplyAllRequest) (page : Option Page) :
    ∃ x, AnswersAll label r page x := by
  rcases refused_or_ready page r.uri r.version with ⟨e, he⟩ | ⟨p, cs, rfl, hv, hc⟩
  · exact ⟨_, .refused he⟩
  · by_cases hnone : ∀ c ∈ cs, planFor label p.lineEnding c = .nothing
    · exact ⟨_, .upToDate hv hc hnone⟩
    · push Not at hnone
      exact ⟨_, .edits hv hc hnone⟩

end

/-! ## The store -/

/-- An answer and the store behind it, in which every document has the text and both versions it
had. If the document was not open or had another version, nothing at all has changed. -/
structure Undisturbed {α : Type} (s : Store) (x : Except RequestError α × Store) : Prop where
  kept : ∀ u, (x.2.get? u).map (fun d => (d.version, d.document.page)) =
    (s.get? u).map fun d => (d.version, d.document.page)
  notOpen : ∀ u, x.1 = .error (.documentNotOpen u) → x.2 = s
  stale : ∀ expected actual, x.1 = .error (.staleRequest expected actual) → x.2 = s
  /-- The store is one that operations lead to. -/
  history : ∃ more, x.2 = s.run more

theorem Store.analyze_undisturbed (ops : List Operation) (u v : Uri) :
    (((Store.run {} ops).analyze u).2.get? v).map (fun d => (d.version, d.document.page)) =
      ((Store.run {} ops).get? v).map fun d => (d.version, d.document.page) := by
  by_cases hv : v = u
  · subst hv
    rw [Store.get?_analyze_self, Option.map_map]
    refine Option.map_congr fun d hd => ?_
    obtain ⟨-, hpage, -⟩ := (Store.sound_run ops v d hd).document.analyze_snd _
    exact congrArg (Prod.mk d.version) hpage
  · rw [Store.get?_analyze_of_ne _ hv]

theorem currentAnalysis_undisturbed (ops : List Operation) (u : Uri) (version : Int) :
    Undisturbed (Store.run {} ops) (currentAnalysis (Store.run {} ops) u version) := by
  cases h : Reference.run ops u with
  | none =>
    rw [currentAnalysis_notOpen h]
    exact ⟨fun _ => rfl, fun _ _ => rfl, fun _ _ _ => rfl, [], rfl⟩
  | some p =>
    by_cases hv : p.version = version
    · rw [currentAnalysis_current h hv]
      refine ⟨Store.analyze_undisturbed ops u, ?_, ?_, [.analyze u], rfl⟩
      · cases p.components <;> simp
      · cases p.components <;> simp
    · rw [currentAnalysis_stale h hv]
      exact ⟨fun _ => rfl, fun _ _ => rfl, fun _ _ _ => rfl, [], rfl⟩

/-- Other answers with the same store, if they refuse nothing more. -/
theorem Undisturbed.mono {α β : Type} {s : Store} {x : Except RequestError α × Store}
    {y : Except RequestError β × Store} (h : Undisturbed s x) (hstore : y.2 = x.2)
    (herror : ∀ e, y.1 = .error e → x.1 = .error e ∨ ∃ name, e = .unknownComponent name) :
    Undisturbed s y := by
  constructor
  case kept => rw [hstore]; exact h.kept
  case notOpen =>
    intro u hy
    rcases herror _ hy with hx | ⟨name, he⟩
    · exact hstore.trans (h.notOpen u hx)
    · cases he
  case stale =>
    intro expected actual hy
    rcases herror _ hy with hx | ⟨name, he⟩
    · exact hstore.trans (h.stale expected actual hx)
    · cases he
  case history => rw [hstore]; exact h.history

theorem applyOne_undisturbed (ops : List Operation) (label : String) (r : ApplyRequest) :
    Undisturbed (Store.run {} ops) (applyOne (Store.run {} ops) label r) := by
  rw [applyOne_eq]
  refine (currentAnalysis_undisturbed ops r.uri r.version).mono rfl fun e he => ?_
  cases hx : (currentAnalysis (Store.run {} ops) r.uri r.version).1 with
  | error e' =>
    rw [hx] at he
    exact .inl (congrArg Except.error (Except.error.inj he))
  | ok a =>
    rw [hx] at he
    simp only [Except.bind, editForOne] at he
    split at he
    · exact .inr ⟨r.name, (Except.error.inj he).symm⟩
    · cases he

theorem applyAll_undisturbed (ops : List Operation) (label : String) (r : ApplyAllRequest) :
    Undisturbed (Store.run {} ops) (applyAll (Store.run {} ops) label r) := by
  rw [applyAll_eq]
  refine (currentAnalysis_undisturbed ops r.uri r.version).mono rfl fun e he => ?_
  cases hx : (currentAnalysis (Store.run {} ops) r.uri r.version).1 with
  | error e' =>
    rw [hx] at he
    exact .inl (congrArg Except.error (Except.error.inj he))
  | ok a =>
    rw [hx] at he
    cases he

/-! ## A second look at the version -/

section

variable {ops : List Operation} {label : String}

/-- A command has an edit, or has found that none is needed, for the current version only. -/
theorem AnswersOne.version_eq {r : ApplyRequest} {page : Option Page}
    {edit : Option WorkspaceEdit} (h : AnswersOne label r page (.ok edit)) :
    page.map Page.version = some r.version := by
  cases h with
  | upToDate hv => exact congrArg some hv
  | edit hv => exact congrArg some hv

theorem AnswersAll.version_eq {r : ApplyAllRequest} {page : Option Page}
    {edit : Option WorkspaceEdit} (h : AnswersAll label r page (.ok edit)) :
    page.map Page.version = some r.version := by
  cases h with
  | upToDate hv => exact congrArg some hv
  | edits hv => exact congrArg some hv

/-- A command that leaves the versions as they are is not refused afterwards. -/
theorem Undisturbed.confirm_eq {u : Uri} {version : Int}
    {x : Except RequestError (Option WorkspaceEdit) × Store}
    (h : Undisturbed (Store.run {} ops) x)
    (hcurrent : ∀ edit, x.1 = .ok edit →
      (Reference.run ops u).map Page.version = some version) :
    confirm x.2 u version x.1 = x.1 := by
  cases hx : x.1 with
  | error e => rfl
  | ok edit =>
    have hversion : x.2.version? u = (Store.run {} ops).version? u := by
      have hkept := congrArg (Option.map Prod.fst) (h.kept u)
      rwa [Option.map_map, Option.map_map] at hkept
    have hok : ensureCurrent x.2 u version = .ok () := by
      rw [ensureCurrent, hversion, Store.version?_run, hcurrent edit hx]
      exact if_pos rfl
    rw [confirm, hok]
    rfl

theorem confirm_applyOne (ops : List Operation) (label : String) (r : ApplyRequest) :
    confirm (applyOne (Store.run {} ops) label r).2 r.uri r.version
        (applyOne (Store.run {} ops) label r).1 = (applyOne (Store.run {} ops) label r).1 := by
  refine (applyOne_undisturbed ops label r).confirm_eq fun edit hedit => ?_
  obtain ⟨x, hx⟩ := AnswersOne.total label r (Reference.run ops r.uri)
  obtain rfl := (applyOne_of_answers hx).symm.trans hedit
  exact hx.version_eq

theorem confirm_applyAll (ops : List Operation) (label : String) (r : ApplyAllRequest) :
    confirm (applyAll (Store.run {} ops) label r).2 r.uri r.version
        (applyAll (Store.run {} ops) label r).1 = (applyAll (Store.run {} ops) label r).1 := by
  refine (applyAll_undisturbed ops label r).confirm_eq fun edit hedit => ?_
  obtain ⟨x, hx⟩ := AnswersAll.total label r (Reference.run ops r.uri)
  obtain rfl := (applyAll_of_answers hx).symm.trans hedit
  exact hx.version_eq

end

/-- After any history a command answers as the current text says, and leaves all texts and versions
as they are. -/
theorem commands_current (ops : List Operation) (label : String) :
    (∀ r x, (applyOne (Store.run {} ops) label r).1 = x ↔
      AnswersOne label r (Reference.run ops r.uri) x) ∧
    (∀ r x, (applyAll (Store.run {} ops) label r).1 = x ↔
      AnswersAll label r (Reference.run ops r.uri) x) ∧
    (∀ r, Undisturbed (Store.run {} ops) (applyOne (Store.run {} ops) label r)) ∧
    (∀ r, Undisturbed (Store.run {} ops) (applyAll (Store.run {} ops) label r)) := by
  refine ⟨fun r x => ⟨?_, applyOne_of_answers⟩, fun r x => ⟨?_, applyAll_of_answers⟩,
    applyOne_undisturbed ops label, applyAll_undisturbed ops label⟩
  · rintro rfl
    obtain ⟨x, hx⟩ := AnswersOne.total label r (Reference.run ops r.uri)
    rwa [applyOne_of_answers hx]
  · rintro rfl
    obtain ⟨x, hx⟩ := AnswersAll.total label r (Reference.run ops r.uri)
    rwa [applyAll_of_answers hx]

end Nameplate
