import Nameplate.Proofs.Server.Accounting
import Nameplate.Proofs.Server.Reply

/-!
# Commands take effect as a whole or not at all

A command finds an edit and asks the client to apply it, or it finds that there is nothing to do, or
it fails. Which of these it is depends on the arguments, the documents and the workspace alone, and
the answer depends on it and on the reply of the client. The documents stay as they are.

* `Failure`: why a command fails, and the code of its answer;
* `NothingToDo`, `Finds`: what a command finds otherwise;
* `Contained`: no more than one edit is sent, it decides about the answer, and no document changes;
* `Settled`: what is sent and answered in each of the three cases;
* `commands_all_or_nothing`: all requests for commands are contained and settled.
-/

namespace Nameplate.Server

open Json (Value Field checked checkMembers checkMembers_eq_ok fromObject_of_sorted
  keyedMembers_of_sorted valueOf)
open Workspace (Entry FilePlan)

/-! ## What a command is about -/

/-- The text that is open under a URI. -/
def page? (s : Server) (u : Uri) : Option Page := (s.store.get? u).map fun d => d.document.page

/-- A command is about a version of a document, and about one component of it or about all. -/
inductive About (p : CommandParams) : Uri → Int → Option String → Prop where
  | one {v : Value} {rest : List Value} {r : ApplyRequest} : p.command = applyCommand →
      p.arguments = v :: rest → ApplyRequest.read v = .ok r → About p r.uri r.version (some r.name)
  | all {v : Value} {rest : List Value} {r : ApplyAllRequest} : p.command = applyAllCommand →
      p.arguments = v :: rest → ApplyAllRequest.read v = .ok r → About p r.uri r.version none

/-- A command fails, with the code of the answer. -/
inductive Failure (s : Server) (p : CommandParams) : RequestError → Int → Prop where
  | missing : p.command = applyCommand ∨ p.command = applyAllCommand → p.arguments = [] →
      Failure s p (.invalidArguments "missing argument object") (-32602)
  | illegible {v : Value} {rest : List Value} {e : Json.Mismatch} : p.command = applyCommand →
      p.arguments = v :: rest → ApplyRequest.read v = .error e →
      Failure s p (.invalidArguments e.message) (-32602)
  | illegibleAll {v : Value} {rest : List Value} {e : Json.Mismatch} :
      p.command = applyAllCommand → p.arguments = v :: rest → ApplyAllRequest.read v = .error e →
      Failure s p (.invalidArguments e.message) (-32602)
  | notOpen {u : Uri} {version : Int} {name : Option String} : About p u version name →
      s.page? u = none → Failure s p (.documentNotOpen u) (-32600)
  | stale {u : Uri} {version : Int} {name : Option String} {page : Page} : About p u version name →
      s.page? u = some page → page.version ≠ version →
      Failure s p (.staleRequest version page.version) (-32801)
  | unparsable {u : Uri} {version : Int} {name : Option String} {page : Page} {fault : Fault} :
      About p u version name → s.page? u = some page → page.version = version →
      page.components = .error fault → Failure s p (.parseFailure fault.toError) (-32000)
  | unknownComponent {u : Uri} {version : Int} {name : String} {page : Page}
      {cs : List Candidate} : About p u version (some name) → s.page? u = some page →
      page.version = version → page.components = .ok cs → (∀ c ∈ cs, c.name ≠ name) →
      Failure s p (.unknownComponent name) (-32600)
  | noRoot : p.command = applyWorkspaceCommand → s.root = none →
      Failure s p (.invalidArguments "no workspace root") (-32602)
  | foreignRoot {u : Uri} : p.command = applyWorkspaceCommand → s.root = some u →
      Workspace.pathOf? u = none →
      Failure s p (.invalidArguments ("workspace root is not a local path: " ++ u.text)) (-32602)

/-- The edits of a whole workspace: those of all its files, each planned by itself. -/
def workspaceEdits (disk : Entry) (s : Server) (root : List String) : WorkspaceEdit :=
  ((workspaceFiles disk s root).map (planned disk s)).filterMap FilePlan.edit?

/-- A command is not known, or what it is about needs no edit. -/
inductive NothingToDo (disk : Entry) (s : Server) (p : CommandParams) : Prop where
  | unknown : p.command ∉ commandNames → NothingToDo disk s p
  | one {v : Value} {rest : List Value} {r : ApplyRequest} : p.command = applyCommand →
      p.arguments = v :: rest → ApplyRequest.read v = .ok r →
      AnswersOne s.settings.label r (s.page? r.uri) (.ok none) → NothingToDo disk s p
  | all {v : Value} {rest : List Value} {r : ApplyAllRequest} : p.command = applyAllCommand →
      p.arguments = v :: rest → ApplyAllRequest.read v = .ok r →
      AnswersAll s.settings.label r (s.page? r.uri) (.ok none) → NothingToDo disk s p
  | workspace {root : List String} : p.command = applyWorkspaceCommand →
      rootPath s.root = .ok root → workspaceEdits disk s root = [] → NothingToDo disk s p

/-- A command finds an edit. -/
inductive Finds (disk : Entry) (s : Server) (p : CommandParams) : WorkspaceEdit → Prop where
  | one {v : Value} {rest : List Value} {r : ApplyRequest} {edit : WorkspaceEdit} :
      p.command = applyCommand → p.arguments = v :: rest → ApplyRequest.read v = .ok r →
      AnswersOne s.settings.label r (s.page? r.uri) (.ok (some edit)) → Finds disk s p edit
  | all {v : Value} {rest : List Value} {r : ApplyAllRequest} {edit : WorkspaceEdit} :
      p.command = applyAllCommand → p.arguments = v :: rest → ApplyAllRequest.read v = .ok r →
      AnswersAll s.settings.label r (s.page? r.uri) (.ok (some edit)) → Finds disk s p edit
  | workspace {root : List String} : p.command = applyWorkspaceCommand →
      rootPath s.root = .ok root → workspaceEdits disk s root ≠ [] →
      Finds disk s p (workspaceEdits disk s root)

/-! ## What is sent and answered -/

/-- The edit that a client is asked to apply by a message. -/
def Outgoing.edit? : Outgoing → Option WorkspaceEdit
  | applyEdit e => some e
  | _ => none

/-- The edits that a client is asked to apply. -/
def Step.edits (step : Step) : List WorkspaceEdit := step.sent.filterMap Outgoing.edit?

/-- All documents of a server have the texts and versions they had, and the rest of it is the
same. -/
structure Untouched (s s' : Server) : Prop where
  isOpen : ∀ u, s'.store.isOpen u = s.store.isOpen u
  version : ∀ u, s'.store.version? u = s.store.version? u
  page : ∀ u, s'.page? u = s.page? u
  settings : s'.settings = s.settings
  root : s'.root = s.root
  options : s'.options = s.options
  phase : s'.phase = s.phase

/-- A step sends one edit at most. Something other than null is answered exactly if an edit was sent
and applied, and then it is that edit; the documents stay as they are. -/
structure Contained (reply : Reply) (s : Server) (step : Step) : Prop where
  length_le : step.edits.length ≤ 1
  result_iff : (∃ v, step.response = .result v ∧ v ≠ .null) ↔ step.edits ≠ [] ∧ reply.Accepts
  result : ∀ v, step.response = .result v → v ≠ .null →
    ∃ edit, step.edits = [edit] ∧ v = ofWorkspaceEdit edit
  judged : ∀ edit ∈ step.edits, Judged edit reply step.response
  untouched : Untouched s step.server

/-- What a command sends and answers. It fails, or there is nothing to do, or there is an edit, and
only in the last case is something sent to be applied. -/
structure Settled (disk : Entry) (s : Server) (p : CommandParams) (step : Step) : Prop where
  failure : ∀ e code, Failure s p e code →
    step.edits = [] ∧ step.response = .error ⟨code, e.message, none⟩
  nothing : NothingToDo disk s p → step.edits = [] ∧ step.response = .result .null
  found : ∀ edit, Finds disk s p edit → step.edits = [edit]
  total : (∃ e code, Failure s p e code) ∨ NothingToDo disk s p ∨ ∃ edit, Finds disk s p edit

/-! ## What is found out -/

section

variable {disk : Entry} {s : Server} {p : CommandParams}

/-- What is found out for a command that is known. -/
def Computes (disk : Entry) (s : Server) (p : CommandParams)
    (x : Except RequestError (Option WorkspaceEdit)) : Prop :=
  ∃ c, compute disk s p = some c ∧ c.edit = x

theorem compute_one (h : p.command = applyCommand) :
    compute disk s p = some (match readArguments ApplyRequest.read p.arguments with
      | .error e => { edit := .error e, store := s.store }
      | .ok r =>
        { edit := confirm (applyOne s.store s.settings.label r).2 r.uri r.version
            (applyOne s.store s.settings.label r).1
          store := (applyOne s.store s.settings.label r).2 }) := by
  rw [compute]
  exact if_pos h

theorem compute_all (h : p.command = applyAllCommand) :
    compute disk s p = some (match readArguments ApplyAllRequest.read p.arguments with
      | .error e => { edit := .error e, store := s.store }
      | .ok r =>
        { edit := confirm (applyAll s.store s.settings.label r).2 r.uri r.version
            (applyAll s.store s.settings.label r).1
          store := (applyAll s.store s.settings.label r).2 }) := by
  rw [compute, if_neg (by rw [h]; decide)]
  exact if_pos h

theorem compute_workspace (h : p.command = applyWorkspaceCommand) :
    compute disk s p = some (applyWorkspace disk s) := by
  rw [compute, if_neg (by rw [h]; decide), if_neg (by rw [h]; decide), if_pos h]

theorem compute_unknown (h : p.command ∉ commandNames) : compute disk s p = none := by
  simp only [commandNames, List.mem_cons, List.not_mem_nil, or_false, not_or] at h
  rw [compute, if_neg h.1, if_neg h.2.1, if_neg h.2.2]

theorem readArguments_cons {α : Type} {read : Json.Reader α} {v : Value} {rest : List Value}
    {a : α} (h : read v = .ok a) : readArguments read (v :: rest) = .ok a := by
  rw [readArguments, h]

theorem readArguments_cons_error {α : Type} {read : Json.Reader α} {v : Value}
    {rest : List Value} {e : Json.Mismatch} (h : read v = .error e) :
    readArguments read (v :: rest) = .error (.invalidArguments e.message) := by
  rw [readArguments, h]

variable {ops : List Operation}

/-- The version is still the same when the edit is known. -/
theorem computes_one (hstore : s.store = Store.run {} ops) {v : Value} {rest : List Value}
    {r : ApplyRequest} (h : p.command = applyCommand) (hargs : p.arguments = v :: rest)
    (hr : ApplyRequest.read v = .ok r) :
    Computes disk s p (applyOne s.store s.settings.label r).1 := by
  refine ⟨_, compute_one h, ?_⟩
  rw [hargs, readArguments_cons hr, hstore]
  exact confirm_applyOne ..

theorem computes_all (hstore : s.store = Store.run {} ops) {v : Value} {rest : List Value}
    {r : ApplyAllRequest} (h : p.command = applyAllCommand) (hargs : p.arguments = v :: rest)
    (hr : ApplyAllRequest.read v = .ok r) :
    Computes disk s p (applyAll s.store s.settings.label r).1 := by
  refine ⟨_, compute_all h, ?_⟩
  rw [hargs, readArguments_cons hr, hstore]
  exact confirm_applyAll ..

theorem page?_eq (hstore : s.store = Store.run {} ops) (u : Uri) :
    s.page? u = Reference.run ops u := by
  rw [page?, hstore, Store.page_run]

theorem applyOne_answers (hstore : s.store = Store.run {} ops) {r : ApplyRequest}
    {x : Except RequestError (Option WorkspaceEdit)}
    (h : AnswersOne s.settings.label r (s.page? r.uri) x) :
    (applyOne s.store s.settings.label r).1 = x := by
  rw [page?_eq hstore] at h
  rw [hstore]
  exact applyOne_of_answers h

theorem applyAll_answers (hstore : s.store = Store.run {} ops) {r : ApplyAllRequest}
    {x : Except RequestError (Option WorkspaceEdit)}
    (h : AnswersAll s.settings.label r (s.page? r.uri) x) :
    (applyAll s.store s.settings.label r).1 = x := by
  rw [page?_eq hstore] at h
  rw [hstore]
  exact applyAll_of_answers h

/-- A command about a document that should be refused is refused. -/
theorem computes_refused (hstore : s.store = Store.run {} ops) {u : Uri} {version : Int}
    {name : Option String} {e : RequestError} (h : About p u version name)
    (he : Refused u version (s.page? u) e) : Computes disk s p (.error e) := by
  cases h with
  | one hp hargs hr =>
    rw [← applyOne_answers hstore (.refused he)]
    exact computes_one hstore hp hargs hr
  | all hp hargs hr =>
    rw [← applyAll_answers hstore (.refused he)]
    exact computes_all hstore hp hargs hr

/-- The command about a workspace finds the edits of its files. -/
theorem computes_workspace (hstore : s.store = Store.run {} ops) {root : List String}
    (hp : p.command = applyWorkspaceCommand) (hroot : rootPath s.root = .ok root) :
    Computes disk s p (.ok (if (workspaceEdits disk s root).isEmpty then none
      else some (workspaceEdits disk s root))) := by
  refine ⟨_, compute_workspace hp, ?_⟩
  simp only [applyWorkspace, hroot, planChunks_planned hstore _ (by decide : 0 < chunkSize)]
  rfl

/-- The command about a workspace fails without a local root. -/
theorem computes_rootless {e : RequestError} (hp : p.command = applyWorkspaceCommand)
    (hroot : rootPath s.root = .error e) : Computes disk s p (.error e) := by
  refine ⟨_, compute_workspace hp, ?_⟩
  rw [applyWorkspace, hroot]

/-- A command that should fail fails, with the code of its error. -/
theorem computes_failure (hstore : s.store = Store.run {} ops) {e : RequestError} {code : Int}
    (h : Failure s p e code) : Computes disk s p (.error e) ∧ e.code = code := by
  cases h with
  | missing hp hargs =>
    refine ⟨?_, rfl⟩
    rcases hp with hp | hp
    · refine ⟨_, compute_one hp, ?_⟩
      rw [hargs, readArguments]
    · refine ⟨_, compute_all hp, ?_⟩
      rw [hargs, readArguments]
  | illegible hp hargs hr =>
    refine ⟨⟨_, compute_one hp, ?_⟩, rfl⟩
    rw [hargs, readArguments_cons_error hr]
  | illegibleAll hp hargs hr =>
    refine ⟨⟨_, compute_all hp, ?_⟩, rfl⟩
    rw [hargs, readArguments_cons_error hr]
  | notOpen habout hpage => exact ⟨computes_refused hstore habout (hpage ▸ .notOpen), rfl⟩
  | stale habout hpage hv => exact ⟨computes_refused hstore habout (hpage ▸ .stale hv), rfl⟩
  | unparsable habout hpage hv hc =>
    exact ⟨computes_refused hstore habout (hpage ▸ .unparsable hv hc), rfl⟩
  | unknownComponent habout hpage hv hc hnone =>
    refine ⟨?_, rfl⟩
    cases habout with
    | @one v rest r hp hargs hr =>
      have hanswers : AnswersOne s.settings.label r (s.page? r.uri)
          (.error (.unknownComponent r.name)) := hpage ▸ .unknown hv hc hnone
      rw [← applyOne_answers hstore hanswers]
      exact computes_one hstore hp hargs hr
  | noRoot hp hroot => exact ⟨computes_rootless hp (by rw [hroot]; rfl), rfl⟩
  | foreignRoot hp hroot hpath =>
    refine ⟨computes_rootless hp ?_, rfl⟩
    simp only [rootPath, hroot, hpath]

theorem computes_nothing (hstore : s.store = Store.run {} ops) (h : NothingToDo disk s p) :
    compute disk s p = none ∨ Computes disk s p (.ok none) := by
  cases h with
  | unknown hp => exact .inl (compute_unknown hp)
  | one hp hargs hr hanswers =>
    rw [← applyOne_answers hstore hanswers]
    exact .inr (computes_one hstore hp hargs hr)
  | all hp hargs hr hanswers =>
    rw [← applyAll_answers hstore hanswers]
    exact .inr (computes_all hstore hp hargs hr)
  | workspace hp hroot hnone =>
    have hcomputes := @computes_workspace disk s p ops hstore _ hp hroot
    rw [hnone] at hcomputes
    exact .inr hcomputes

theorem computes_found (hstore : s.store = Store.run {} ops) {edit : WorkspaceEdit}
    (h : Finds disk s p edit) : Computes disk s p (.ok (some edit)) := by
  cases h with
  | one hp hargs hr hanswers =>
    rw [← applyOne_answers hstore hanswers]
    exact computes_one hstore hp hargs hr
  | all hp hargs hr hanswers =>
    rw [← applyAll_answers hstore hanswers]
    exact computes_all hstore hp hargs hr
  | workspace hp hroot hsome =>
    have hcomputes := @computes_workspace disk s p ops hstore _ hp hroot
    rwa [if_neg (mt List.isEmpty_iff.mp hsome)] at hcomputes

/-! ## Every command fails, has nothing to do or finds an edit -/

/-- A command that is refused fails. -/
theorem failure_of_refused {u : Uri} {version : Int} {name : Option String} {e : RequestError}
    (h : About p u version name) (he : Refused u version (s.page? u) e) :
    ∃ e code, Failure s p e code := by
  generalize hpage : s.page? u = page at he
  cases he with
  | notOpen => exact ⟨_, _, .notOpen h hpage⟩
  | stale hv => exact ⟨_, _, .stale h hpage hv⟩
  | unparsable hv hc => exact ⟨_, _, .unparsable h hpage hv hc⟩

theorem total_one (disk : Entry) (hp : p.command = applyCommand) :
    (∃ e code, Failure s p e code) ∨ NothingToDo disk s p ∨ ∃ edit, Finds disk s p edit := by
  cases hargs : p.arguments with
  | nil => exact .inl ⟨_, _, .missing (.inl hp) hargs⟩
  | cons v rest =>
    cases hr : ApplyRequest.read v with
    | error e => exact .inl ⟨_, _, .illegible hp hargs hr⟩
    | ok r =>
      obtain ⟨x, hx⟩ := AnswersOne.total s.settings.label r (s.page? r.uri)
      have hfound := hx
      generalize hpage : s.page? r.uri = page at hx
      cases hx with
      | refused he => exact .inl (failure_of_refused (.one hp hargs hr) (hpage ▸ he))
      | unknown hv hc hnone =>
        exact .inl ⟨_, _, .unknownComponent (.one hp hargs hr) hpage hv hc hnone⟩
      | upToDate => exact .inr (.inl (.one hp hargs hr hfound))
      | edit => exact .inr (.inr ⟨_, .one hp hargs hr hfound⟩)

theorem total_all (disk : Entry) (hp : p.command = applyAllCommand) :
    (∃ e code, Failure s p e code) ∨ NothingToDo disk s p ∨ ∃ edit, Finds disk s p edit := by
  cases hargs : p.arguments with
  | nil => exact .inl ⟨_, _, .missing (.inr hp) hargs⟩
  | cons v rest =>
    cases hr : ApplyAllRequest.read v with
    | error e => exact .inl ⟨_, _, .illegibleAll hp hargs hr⟩
    | ok r =>
      obtain ⟨x, hx⟩ := AnswersAll.total s.settings.label r (s.page? r.uri)
      have hfound := hx
      generalize hpage : s.page? r.uri = page at hx
      cases hx with
      | refused he => exact .inl (failure_of_refused (.all hp hargs hr) (hpage ▸ he))
      | upToDate => exact .inr (.inl (.all hp hargs hr hfound))
      | edits => exact .inr (.inr ⟨_, .all hp hargs hr hfound⟩)

theorem total_workspace (disk : Entry) (hp : p.command = applyWorkspaceCommand) :
    (∃ e code, Failure s p e code) ∨ NothingToDo disk s p ∨ ∃ edit, Finds disk s p edit := by
  cases hroot : s.root with
  | none => exact .inl ⟨_, _, .noRoot hp hroot⟩
  | some u =>
    cases hpath : Workspace.pathOf? u with
    | none => exact .inl ⟨_, _, .foreignRoot hp hroot hpath⟩
    | some root =>
      have hok : rootPath s.root = .ok root := by simp only [rootPath, hroot, hpath]
      by_cases hedits : workspaceEdits disk s root = []
      · exact .inr (.inl (.workspace hp hok hedits))
      · exact .inr (.inr ⟨_, .workspace hp hok hedits⟩)

/-- A command fails, or there is nothing to do, or there is an edit. -/
theorem total_command (disk : Entry) (s : Server) (p : CommandParams) :
    (∃ e code, Failure s p e code) ∨ NothingToDo disk s p ∨ ∃ edit, Finds disk s p edit := by
  by_cases hp : p.command ∈ commandNames
  · simp only [commandNames, List.mem_cons, List.not_mem_nil, or_false] at hp
    rcases hp with hp | hp | hp
    · exact total_one disk hp
    · exact total_all disk hp
    · exact total_workspace disk hp
  · exact .inr (.inl (.unknown hp))

/-! ## What a command sends -/

/-- No edit is sent before it is known. -/
theorem edit?_eq_none_of_compute {c : Computed} (hc : compute disk s p = some c) :
    ∀ x ∈ c.sent, x.edit? = none := by
  have hreports : ∀ (label : String) (total : Nat) (store : Store) (done : Nat)
      (chunks : List (List (List String))),
      ∀ x ∈ (planChunks disk label total store done chunks).2.1, x.edit? = none := by
    intro label total store done chunks
    induction chunks generalizing store done with
    | nil => nofun
    | cons chunk chunks ih => exact List.forall_mem_cons.mpr ⟨rfl, ih _ _⟩
  unfold compute at hc
  split at hc
  · obtain rfl := Option.some.inj hc
    split <;> nofun
  split at hc
  · obtain rfl := Option.some.inj hc
    split <;> nofun
  split at hc
  · obtain rfl := Option.some.inj hc
    unfold applyWorkspace
    split
    · nofun
    · intro x hx
      simp only [List.mem_append, List.mem_cons, List.not_mem_nil, or_false] at hx
      rcases hx with ((rfl | rfl) | hx) | (rfl | rfl)
      · rfl
      · rfl
      · exact hreports _ _ _ _ _ x hx
      · rfl
      · rfl
  · cases hc

theorem filterMap_edit?_of_compute {c : Computed} (hc : compute disk s p = some c) :
    c.sent.filterMap Outgoing.edit? = [] :=
  List.filterMap_eq_nil_iff.mpr (edit?_eq_none_of_compute hc)

theorem executeCommand_unknown (reply : Reply) (h : compute disk s p = none) :
    (s.executeCommand disk reply p).edits = [] ∧
      (s.executeCommand disk reply p).response = .result .null := by
  rw [executeCommand, h]
  exact ⟨rfl, rfl⟩

theorem executeCommand_error (reply : Reply) {e : RequestError} (h : Computes disk s p (.error e)) :
    (s.executeCommand disk reply p).edits = [] ∧
      (s.executeCommand disk reply p).response = .error ⟨e.code, e.message, none⟩ := by
  obtain ⟨c, hc, he⟩ := h
  rw [executeCommand, hc]
  simp only [he]
  exact ⟨filterMap_edit?_of_compute hc, rfl⟩

theorem executeCommand_nothing (reply : Reply) (h : Computes disk s p (.ok none)) :
    (s.executeCommand disk reply p).edits = [] ∧
      (s.executeCommand disk reply p).response = .result .null := by
  obtain ⟨c, hc, he⟩ := h
  rw [executeCommand, hc]
  dsimp only
  rw [he]
  exact ⟨filterMap_edit?_of_compute hc, rfl⟩

theorem executeCommand_edit (reply : Reply) {edit : WorkspaceEdit}
    (h : Computes disk s p (.ok (some edit))) :
    (s.executeCommand disk reply p).edits = [edit] ∧
      Judged edit reply (s.executeCommand disk reply p).response := by
  obtain ⟨c, hc, he⟩ := h
  rw [executeCommand, hc]
  simp only [he, Step.edits, List.filterMap_append, filterMap_edit?_of_compute hc]
  exact ⟨rfl, judged_outcomeOf edit reply⟩

/-! ## Commands -/

theorem Untouched.refl (s : Server) : Untouched s s :=
  ⟨fun _ => rfl, fun _ => rfl, fun _ => rfl, rfl, rfl, rfl, rfl⟩

/-- Stores that follow one history have the same documents. -/
theorem untouched_of_follows {store : Store} (h : s.store.Follows ops) (h' : store.Follows ops) :
    Untouched s { s with store } where
  isOpen u := by rw [h.isOpen_eq, h'.isOpen_eq]
  version u := by rw [h.version?_eq, h'.version?_eq]
  page u := by
    rw [page?, page?, h.page_eq, h'.page_eq]
  settings := rfl
  root := rfl
  options := rfl
  phase := rfl

theorem untouched_executeCommand (disk : Entry) (reply : Reply) (h : s.store.Follows ops)
    (p : CommandParams) : Untouched s (s.executeCommand disk reply p).server := by
  unfold executeCommand
  split
  · exact .refl s
  · rename_i c hc
    have hkept := untouched_of_follows h (follows_compute h hc)
    split <;> exact hkept

/-- A step that sends no edit and answers with no value is contained. -/
theorem contained_of_no_edit {reply : Reply} {step : Step} (hedits : step.edits = [])
    (hresponse : ∀ v, step.response = .result v → v = .null) (hkept : Untouched s step.server) :
    Contained reply s step where
  length_le := by rw [hedits]; exact Nat.zero_le 1
  result_iff := by
    rw [hedits]
    exact ⟨fun ⟨v, hv, hne⟩ => absurd (hresponse v hv) hne, fun h => absurd rfl h.1⟩
  result v hv hne := absurd (hresponse v hv) hne
  judged := by rw [hedits]; nofun
  untouched := hkept

/-- A step that sends one edit, and whose answer depends on the reply, is contained. -/
theorem contained_of_edit {reply : Reply} {step : Step} {edit : WorkspaceEdit}
    (hedits : step.edits = [edit]) (hjudged : Judged edit reply step.response)
    (hkept : Untouched s step.server) : Contained reply s step where
  length_le := by rw [hedits]; exact Nat.le_refl 1
  result_iff := by
    rw [hjudged.result_iff, hedits]
    exact ⟨fun h => ⟨nofun, h⟩, fun h => h.2⟩
  result v hv _ := ⟨edit, hedits, Judged.result_eq (hv ▸ hjudged)⟩
  judged := by
    rw [hedits]
    exact List.forall_mem_singleton.mpr hjudged
  untouched := hkept

theorem contained_executeCommand (disk : Entry) (reply : Reply) (h : s.store.Follows ops)
    (p : CommandParams) : Contained reply s (s.executeCommand disk reply p) := by
  have hkept := untouched_executeCommand disk reply h p
  obtain ⟨seen, hstore, -⟩ := id h
  have hnull : ∀ {response : Response}, response = .result .null →
      ∀ v, response = .result v → v = .null := by
    intro response hresponse v hv
    exact (Response.result.inj (hresponse.symm.trans hv)).symm
  rcases total_command disk s p with ⟨e, code, hfails⟩ | hnothing | ⟨edit, hfound⟩
  · have hcomputes := (@computes_failure disk s p seen hstore e code hfails).1
    obtain ⟨hedits, hresponse⟩ := executeCommand_error reply hcomputes
    refine contained_of_no_edit hedits (fun v hv => ?_) hkept
    rw [hresponse] at hv
    cases hv
  · obtain ⟨hedits, hresponse⟩ := (computes_nothing hstore hnothing).elim
      (executeCommand_unknown reply) (executeCommand_nothing reply)
    exact contained_of_no_edit hedits (hnull hresponse) hkept
  · obtain ⟨hedits, hjudged⟩ := executeCommand_edit reply (computes_found hstore hfound)
    exact contained_of_edit hedits hjudged hkept

theorem settled_executeCommand (disk : Entry) (reply : Reply)
    (hstore : s.store = Store.run {} ops) (p : CommandParams) :
    Settled disk s p (s.executeCommand disk reply p) where
  failure e code h := by
    obtain ⟨hcomputes, rfl⟩ := @computes_failure disk s p ops hstore e code h
    exact executeCommand_error reply hcomputes
  nothing h := (computes_nothing hstore h).elim (executeCommand_unknown reply)
    (executeCommand_nothing reply)
  found edit h := (executeCommand_edit reply (computes_found hstore h)).1
  total := total_command disk s p

/-! ## Requests -/

/-- The request to run a command. -/
def commandMessage (params : Option Value) : Message := ⟨"workspace/executeCommand", true, params⟩

/-- A request to run a command is refused without any effect, or the command is run. -/
theorem handle_command (disk : Entry) (reply : Reply) (s : Server) (params : Option Value) :
    (∃ response, handle disk reply s (commandMessage params) = { server := s, response } ∧
      ∀ v, response ≠ .result v) ∨
    ∃ v p, s.phase = .initialized ∧ params = some v ∧ CommandParams.read v = .ok p := by
  cases hphase : s.phase with
  | initialized =>
    have hhandle : handle disk reply s (commandMessage params) =
        withParams s (commandMessage params) CommandParams.read
          (s.executeCommand disk reply) := by
      simp [handle, hphase, commandMessage, Method.ofName?, phaseError, Method.isRequest,
        handleMethod]
    cases params with
    | none => exact .inl ⟨_, hhandle, fun _ h => by cases h⟩
    | some v =>
      cases hread : CommandParams.read v with
      | error e =>
        refine .inl ⟨.error (invalidParams e.message), ?_, fun _ h => by cases h⟩
        rw [hhandle]
        simp [withParams, commandMessage, hread, answer]
      | ok p => exact .inr ⟨v, p, rfl, rfl, hread⟩
  | uninitialized =>
    refine .inl ⟨.error notInitialized, ?_, fun _ h => by cases h⟩
    simp [handle, hphase, commandMessage, Method.ofName?, phaseError, answer]
  | shutDown =>
    refine .inl ⟨.error invalidRequest, ?_, fun _ h => by cases h⟩
    simp [handle, hphase, commandMessage, Method.ofName?, phaseError, answer]
  | exited =>
    refine .inl ⟨.exited, ?_, fun _ h => by cases h⟩
    simp [handle, hphase]

theorem handle_command_run (disk : Entry) (reply : Reply) {s : Server} {v : Value}
    {p : CommandParams} (hphase : s.phase = .initialized) (hread : CommandParams.read v = .ok p) :
    handle disk reply s (commandMessage (some v)) = s.executeCommand disk reply p := by
  have hcall : s.call? (commandMessage (some v)) = some (.command p) := by
    rw [call?_eq hphase rfl rfl rfl, Call.ofParams?, hread]
    rfl
  rw [handle_of_call hcall]
  rfl

end

/-- Whatever has happened in a session before, a request to run a command has the client apply one
edit at most, answers with that edit exactly if the client has applied it, and changes no document.
If the command is run, it fails, has nothing to do or finds an edit; only an edit is sent to be
applied, and each failure has its code. -/
theorem commands_all_or_nothing (session : Messages) (disk : Entry) (reply : Reply)
    (params : Option Value) :
    Contained reply (after {} session)
      (handle disk reply (after {} session) (commandMessage params)) ∧
    ∀ v p, params = some v → CommandParams.read v = .ok p →
      (after {} session).phase = .initialized →
      Settled disk (after {} session) p
        (handle disk reply (after {} session) (commandMessage params)) := by
  have hfollows := follows_after (s := {}) session (Store.follows_run [])
  obtain ⟨seen, hstore, -⟩ := id hfollows
  constructor
  · rcases handle_command disk reply (after {} session) params with
      ⟨response, hhandle, hresponse⟩ | ⟨v, p, hphase, rfl, hread⟩
    · rw [hhandle]
      exact contained_of_no_edit rfl (fun v hv => absurd hv (hresponse v)) (.refl _)
    · rw [handle_command_run disk reply hphase hread]
      exact contained_executeCommand disk reply hfollows p
  · rintro v p rfl hread hphase
    rw [handle_command_run disk reply hphase hread]
    exact settled_executeCommand disk reply hstore p

/-- A command with its arguments can be read. -/
theorem CommandParams.read_object (command : String) (arguments : List Value) :
    CommandParams.read (.object [("arguments", .array arguments), ("command", .string command)]) =
      .ok ⟨command, arguments⟩ := by
  have hsorted : Value.sortedMembers
      [("arguments", .array arguments), ("command", .string command)] =
        [("arguments", .array arguments), ("command", .string command)] := by
    simp only [Value.sortedMembers]
    refine List.mergeSort_of_pairwise ?_
    simp
  have hall : ∀ vs : List Value, vs.mapM Json.anything = .ok vs := by
    intro vs
    induction vs with
    | nil => rfl
    | cons v vs ih =>
      rw [List.mapM_cons, ih]
      rfl
  have hitems : checked (Json.items Json.anything) (.array arguments) = .ok () := by
    rw [checked, Json.items, hall]
    rfl
  have htext : checked Json.text (.string command) = .ok () := by rfl
  have hown : checkMembers [.of "command" Json.text,
      .of "arguments" (Json.items Json.anything) .defaulted] .ignored
      [("arguments", .array arguments), ("command", .string command)] = .ok () :=
    checkMembers_eq_ok (by simp [Field.of, hitems, htext])
  rw [CommandParams.read, keyedMembers_of_sorted (fromObject_of_sorted hsorted hown rfl)]
  · simp [valueOf, Json.items, hall]
    rfl
  · intro part hpart
    obtain rfl := List.mem_singleton.mp hpart
    exact fromObject_of_sorted hsorted rfl rfl

/-- The command to name the component `A` of the open document, as a client sends it that has seen
a version. -/
def sampleArgument (version : Int) : Value :=
  .array [.string "file:///src/Card.tsx", .string "A", .integer version]

/-- What happens when the client sends it and answers a request to apply an edit by a value. -/
def sampleStep (version : Int) (reply : Value) : Step :=
  handle (.directory []) (.result reply) (after {} sampleStart) (commandMessage
    (some (.object [("arguments", .array [sampleArgument version]),
      ("command", .string applyCommand)])))

/-- A client that has seen another version of a document is told so, and nothing else happens. If it
has seen the current one and the component needs an edit, its reply decides: it may have applied the
edit, or not, for a reason or for none, or say something else. -/
theorem commands_all_or_nothing_sample :
    let s := after {} sampleStart
    let accepts : Value := .object [("applied", .bool true)]
    let rejects : Value := .object [("failureReason", .string "file is locked"),
      ("applied", .bool false)]
    let refuses : Value := .array [.bool false, .null, .integer 0]
    s.phase = .initialized ∧ s.store.version? sampleUri = some 1 ∧
      Failure s ⟨applyCommand, [sampleArgument 5]⟩ (.staleRequest 5 1) (-32801) ∧
      (sampleStep 5 accepts).edits = [] ∧
      (sampleStep 5 accepts).response = .error ⟨-32801,
        "document changed: client saw version 5, current version is 1", none⟩ ∧
      Untouched s (sampleStep 5 accepts).server ∧
      ∀ edit, Finds (.directory []) s ⟨applyCommand, [sampleArgument 1]⟩ edit →
        (∀ reply, (sampleStep 1 reply).edits = [edit]) ∧
        (sampleStep 1 accepts).response = .result (ofWorkspaceEdit edit) ∧
        (sampleStep 1 rejects).response = .error ⟨-32000,
          "Edit was not applied: file is locked", none⟩ ∧
        (sampleStep 1 refuses).response = .error ⟨-32000,
          "Edit was not applied: client rejected the edit", none⟩ ∧
        (sampleStep 1 .null).response = .error ⟨-32603, "Client request failed: Parse error: " ++
          "invalid type: null, expected struct ApplyWorkspaceEditResponse", none⟩ := by
  intro s accepts rejects refuses
  have hphase : s.phase = .initialized := by rfl
  have hread : ApplyRequest.read (sampleArgument 5) = .ok ⟨sampleUri, "A", 5⟩ := by rfl
  have hpage : s.page? sampleUri = some ⟨1, "const A = () => 1;".toList, true⟩ := by rfl
  have hfails : Failure s ⟨applyCommand, [sampleArgument 5]⟩ (.staleRequest 5 1) (-32801) :=
    .stale (.one rfl rfl hread) hpage (by decide)
  have hall (version : Int) (reply : Value) := commands_all_or_nothing sampleStart (.directory [])
    (.result reply) (some (.object [("arguments", .array [sampleArgument version]),
      ("command", .string applyCommand)]))
  have hsettled (version : Int) (reply : Value) :=
    (hall version reply).2 _ _ rfl (CommandParams.read_object _ _) hphase
  obtain ⟨hedits, hresponse⟩ := (hsettled 5 accepts).failure _ _ hfails
  refine ⟨hphase, by rfl, hfails, hedits, hresponse, (hall 5 accepts).1.untouched,
    fun edit hfinds => ?_⟩
  have hfound (reply : Value) : (sampleStep 1 reply).edits = [edit] :=
    (hsettled 1 reply).found edit hfinds
  have hjudged (reply : Value) : Judged edit (.result reply) (sampleStep 1 reply).response :=
    (hall 1 reply).1.judged edit (by
      rw [show (handle _ _ _ _).edits = [edit] from hfound reply]
      exact List.mem_singleton_self edit)
  have hyes : Applied.Told ⟨true, none⟩ accepts := .object ⟨rfl, rfl, .inl rfl⟩
  have hno : Applied.Told ⟨false, some "file is locked"⟩ rejects := .object ⟨rfl, rfl, .inl rfl⟩
  have hnever : Applied.Told ⟨false, none⟩ refuses :=
    .array ⟨rfl, rfl, .inr ⟨0, by decide, rfl⟩⟩
  have hnothing : ∀ a : Applied, ¬ a.Told .null := fun _ h => nomatch h
  exact ⟨hfound, (hjudged _).unique (.applied hyes rfl), (hjudged _).unique (.rejected hno rfl),
    (hjudged _).unique (.rejected hnever rfl),
    ((hjudged _).unique (.illegible hnothing rfl)).trans (by rfl)⟩

/-- A server with the document whose analysis is kept: `A` has no name yet. -/
def sampleKept : Server :=
  let text := "const A = () => 1;".toList
  let found : Analysis :=
    ⟨sampleUri, 1, .ofText text, .components [⟨"A", .arrowConst, ⟨0, 18⟩, 18, none, []⟩]⟩
  { phase := .initialized
    store := ⟨[(sampleUri, ⟨1, sampleUri, 1, text, true, none, some ⟨0, found⟩, .analyzed⟩)], 1⟩ }

/-- The client that has seen version 1 is sent the edit behind the declaration. -/
example :
    (executeCommand (.directory []) (.result .null) sampleKept
      ⟨applyCommand, [sampleArgument 1]⟩).edits =
      [[⟨sampleUri, some 1, [⟨⟨⟨0, 18⟩, ⟨0, 18⟩⟩, "\nA.displayName = \"REMOD_A\";"⟩]⟩]] := by
  decide +kernel

end Nameplate.Server
