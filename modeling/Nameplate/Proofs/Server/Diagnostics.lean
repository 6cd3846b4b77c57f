import Nameplate.Proofs.Server.Session
import Nameplate.Proofs.Tsx.Unreadable

/-!
# Diagnostics and lenses

A server publishes the diagnostics of a document when it is opened, when it is closed and when a
client asks for its lenses. What it publishes belongs to the text and the version that the document
has at that time.

* `Page.diagnostics`: the diagnostics that belong to a text;
* `Truthful`: what is published about a document is true;
* `LensesAnswered`: there are no lenses beside a diagnostic;
* `truthful_act`: what is published when a server acts on a call is true;
* `LensesAnswered.null_of_unparsable`: a document that cannot be parsed has no lenses;
* `diagnostics_truthful`: so is all that is published in the course of a session.
-/

namespace Nameplate

/-! ## The diagnostics of a text -/

/-- A document is open and searched for components, and its text cannot be parsed. -/
def Store.Unparsable (s : Store) (u : Uri) : Prop :=
  ∃ d fault, s.get? u = some d ∧ d.document.analyzable = true ∧
    analyzeText d.document.text = .error fault

/-- The diagnostics that belong to a page. -/
def Page.diagnostics (d : Settings.Diagnostics) (p : Page) : List Diagnostic :=
  if d.enabled then
    match p.components with
    | .ok _ => []
    | .error fault => [.ofError (.ofText d.severity) (.ofText p.text) fault.toError]
  else []

/-- The diagnostics that belong to a document; there are none if it is not open. -/
def Page.diagnosticsOf (d : Settings.Diagnostics) (page : Option Page) : List Diagnostic :=
  (page.map (Page.diagnostics d)).getD []

namespace Page

theorem components_eq_error {p : Page} {fault : Fault} :
    p.components = .error fault ↔ p.analyzable = true ∧ analyzeText p.text = .error fault := by
  unfold components
  split <;> simp_all

theorem length_diagnostics_le (d : Settings.Diagnostics) (p : Page) :
    (p.diagnostics d).length ≤ 1 := by
  unfold diagnostics
  split
  · split <;> simp
  · exact Nat.zero_le 1

theorem diagnostics_ne_nil {d : Settings.Diagnostics} {p : Page} :
    p.diagnostics d ≠ [] ↔ d.enabled = true ∧ ∃ fault, p.components = .error fault := by
  unfold diagnostics
  cases d.enabled with
  | false => simp
  | true => cases p.components <;> simp

/-- A text that cannot be parsed has no lenses. -/
theorem lenses_of_diagnostics {d : Settings.Diagnostics} {p : Page} (h : p.diagnostics d ≠ [])
    (label : String) (u : Uri) : p.lenses label u = none := by
  obtain ⟨-, fault, hfault⟩ := diagnostics_ne_nil.mp h
  rw [lenses, Analysis.candidates, outcome_analysis, hfault]
  rfl

end Page

namespace Store.Follows

variable {s : Store} {ops : List Operation}

theorem unparsable_iff (h : s.Follows ops) (u : Uri) :
    s.Unparsable u ↔ ∃ p fault, Reference.run ops u = some p ∧ p.components = .error fault := by
  rw [← h.page_eq]
  constructor
  · rintro ⟨d, fault, hd, hfault⟩
    exact ⟨_, fault, congrArg (Option.map _) hd, Page.components_eq_error.mpr hfault⟩
  · rintro ⟨p, fault, hp, hfault⟩
    obtain ⟨d, hd, rfl⟩ := Option.map_eq_some_iff.mp hp
    exact ⟨d, fault, hd, Page.components_eq_error.mp hfault⟩

/-- The diagnostics that are found are those of the current text. -/
theorem diagnose_fst (h : s.Follows ops) (d : Settings.Diagnostics) (u : Uri) :
    (diagnose s d u).1 = Page.diagnosticsOf d (Reference.run ops u) := by
  have hlook := h.analyze_fst u
  unfold diagnose Page.diagnosticsOf
  cases henabled : d.enabled with
  | false => cases Reference.run ops u <;> simp [Page.diagnostics, henabled]
  | true =>
    rw [if_pos rfl]
    cases hpage : Reference.run ops u with
    | none =>
      rw [hpage] at hlook
      split <;> simp_all
    | some p =>
      rw [hpage] at hlook
      split
      · simp_all
      · rename_i made store hx
        rw [hx] at hlook
        have hsaid : made.analysis = p.analysis u := Option.some.inj hlook
        dsimp only
        rw [hsaid, Page.outcome_analysis, Option.map_some, Option.getD_some, Page.diagnostics,
          henabled, if_pos rfl]
        cases p.components <;> rfl

theorem lenses_fst (h : s.Follows ops) (label : String) (u : Uri) :
    (lenses s label u).1 = (Reference.run ops u).bind (Page.lenses label u) := by
  obtain ⟨seen, rfl, hseen⟩ := h
  rw [lenses_run, hseen]

end Store.Follows

namespace Server

open Json (Value Field checked checkMembers checkMembers_eq_ok fromObject_of_sorted
  keyedMembers_of_sorted)
open Workspace (Entry)

/-! ## What is published -/

/-- What is published about a document is true at the time: there is at most one diagnostic, there
is one exactly if diagnostics are wanted and the document cannot be parsed, and the version is that
of the document, or none if it is not open. -/
structure Truthful (s : Server) (u : Uri) (diagnostics : List Diagnostic) (version : Option Int) :
    Prop where
  length_le : diagnostics.length ≤ 1
  ne_nil_iff : diagnostics ≠ [] ↔ s.settings.diagnostics.enabled = true ∧ s.store.Unparsable u
  none_iff : version = none ↔ s.store.isOpen u = false
  current : version = s.store.version? u

/-- An answer to a request for lenses. The diagnostics of the document are published once, and there
are none of them if there are lenses. -/
inductive LensesAnswered (u : Uri) : Step → Prop where
  | null (server : Server) (diagnostics : List Diagnostic) (version : Option Int) :
      LensesAnswered u
        { server, sent := [.publish u diagnostics version], response := .result .null }
  | found (server : Server) (version : Option Int) (ls : List Lens) :
      LensesAnswered u
        { server, sent := [.publish u [] version], response := .result (.array (ls.map ofLens)) }

section

variable {s : Server} {ops : List Operation}

/-- The diagnostics of the current text are true, with the current version. -/
theorem truthful_of_follows (h : s.store.Follows ops) (u : Uri) :
    Truthful s u (Page.diagnosticsOf s.settings.diagnostics (Reference.run ops u))
      ((Reference.run ops u).map Page.version) := by
  have hunparsable := h.unparsable_iff u
  constructor
  case length_le =>
    cases Reference.run ops u with
    | none => exact Nat.zero_le 1
    | some p => exact p.length_diagnostics_le _
  case ne_nil_iff =>
    rw [hunparsable]
    cases Reference.run ops u with
    | none => simp [Page.diagnosticsOf]
    | some p => simpa [Page.diagnosticsOf] using Page.diagnostics_ne_nil
  case none_iff =>
    rw [h.isOpen_eq]
    cases Reference.run ops u <;> simp
  case current => exact (h.version?_eq u).symm

theorem publish_fst (h : s.store.Follows ops) (u : Uri) :
    (s.publish u).1 =
      .publish u (Page.diagnosticsOf s.settings.diagnostics (Reference.run ops u))
        ((Reference.run ops u).map Page.version) := by
  rw [← h.diagnose_fst, ← h.version?_eq]
  rfl

theorem follows_publish (h : s.store.Follows ops) (u : Uri) :
    (s.publish u).2.store.Follows ops := follows_diagnose h ..

/-- What is published by itself is true afterwards. -/
theorem truthful_publish (h : s.store.Follows ops) {u v : Uri} {ds : List Diagnostic}
    {version : Option Int} (hx : .publish v ds version = (s.publish u).1) :
    Truthful (s.publish u).2 v ds version := by
  rw [publish_fst h] at hx
  obtain ⟨rfl, rfl, rfl⟩ := Outgoing.publish.inj hx
  exact truthful_of_follows (follows_publish h v) v

theorem not_published_planChunks (disk : Entry) (label : String) (total : Nat) (store : Store)
    (done : Nat) (chunks : List (List (List String))) (u : Uri) (ds : List Diagnostic)
    (version : Option Int) :
    .publish u ds version ∉ (planChunks disk label total store done chunks).2.1 := by
  induction chunks generalizing store done with
  | nil => nofun
  | cons chunk chunks ih => simp [planChunks, ih]

theorem not_published_compute {disk : Entry} {p : CommandParams} {c : Computed}
    (hc : compute disk s p = some c) (u : Uri) (ds : List Diagnostic) (version : Option Int) :
    .publish u ds version ∉ c.sent := by
  unfold compute at hc
  split at hc
  · obtain rfl := Option.some.inj hc
    split <;> nofun
  split at hc
  · obtain rfl := Option.some.inj hc
    split <;> nofun
  split at hc
  · obtain rfl := Option.some.inj hc
    unfold applyWorkspace
    split
    · nofun
    · simp [not_published_planChunks]
  · cases hc

/-- Commands publish nothing. -/
theorem not_published_executeCommand (disk : Entry) (reply : Reply) (s : Server)
    (p : CommandParams) (u : Uri) (ds : List Diagnostic) (version : Option Int) :
    .publish u ds version ∉ (s.executeCommand disk reply p).sent := by
  unfold executeCommand
  split
  · simp
  · rename_i c hc
    have hsent := not_published_compute hc u ds version
    split <;> simpa using hsent

/-- What is published when a server acts on a call is true afterwards. -/
theorem truthful_act (disk : Entry) (reply : Reply) (h : s.store.Follows ops) (c : Call) {u : Uri}
    {ds : List Diagnostic} {version : Option Int}
    (hx : .publish u ds version ∈ (s.act disk reply c).sent) :
    Truthful (s.act disk reply c).server u ds version := by
  cases c with
  | opening p =>
    have hopen := h.step (.opening p.uri p.version p.text.toList p.language)
    simp only [act, didOpen] at hx ⊢
    by_cases htsx : isTsxDocument p.uri p.language
    · rw [if_pos htsx] at hx ⊢
      exact truthful_publish hopen (List.mem_singleton.mp hx)
    · rw [if_neg htsx] at hx
      cases hx
  | change p =>
    simp only [act, didChange] at hx
    split at hx <;> cases hx
  | close v =>
    simp only [act, didClose] at hx ⊢
    by_cases hopen : s.store.isOpen v
    · rw [if_pos hopen] at hx ⊢
      obtain ⟨rfl, rfl, rfl⟩ := Outgoing.publish.inj (List.mem_singleton.mp hx)
      have htrue := @truthful_of_follows { s with store := s.store.close u } _
        (h.step (.close u)) u
      -- Nothing is left of a document that was closed last.
      have hgone : Reference.run (ops ++ [.close u]) u = none := by
        simp [Reference.run_append_singleton, Reference.step, Operation.uri, Operation.page]
      rwa [hgone] at htrue
    · rw [if_neg hopen] at hx
      cases hx
  | lenses v =>
    exact truthful_publish (follows_lenses h s.settings.label v) (List.mem_singleton.mp hx)
  | command p => exact absurd hx (not_published_executeCommand disk reply s p u ds version)

/-- What is published truthfully about a document that cannot be parsed is one diagnostic. -/
theorem Truthful.singleton {u : Uri} {ds : List Diagnostic} {version : Option Int}
    (h : Truthful s u ds version) (henabled : s.settings.diagnostics.enabled = true)
    (hun : s.store.Unparsable u) : ∃ d, ds = [d] :=
  List.length_eq_one_iff.mp
    (Nat.le_antisymm h.length_le (List.length_pos_iff.mpr (h.ne_nil_iff.mpr ⟨henabled, hun⟩)))

/-- A request for lenses is answered with lenses only if there is no diagnostic. -/
theorem lensesAnswered_codeLens (h : s.store.Follows ops) (u : Uri) :
    LensesAnswered u (s.codeLens u) := by
  have hlook := follows_lenses h s.settings.label u
  have hfound := h.lenses_fst s.settings.label u
  simp only [codeLens]
  rw [@publish_fst { s with store := (lenses s.store s.settings.label u).2 } ops hlook, hfound]
  cases hpage : Reference.run ops u with
  | none => exact .null ..
  | some p =>
    rw [Option.bind_some]
    cases hlenses : p.lenses s.settings.label u with
    | none => exact .null ..
    | some ls =>
      have hnone : p.diagnostics s.settings.diagnostics = [] := by
        by_contra hsome
        rw [Page.lenses_of_diagnostics hsome] at hlenses
        cases hlenses
      have hdiagnostics : Page.diagnosticsOf s.settings.diagnostics (some p) = [] := hnone
      rw [hdiagnostics]
      exact .found ..

theorem handle_lens (disk : Entry) (reply : Reply) {s : Server} (hphase : s.phase = .initialized)
    {v : Value} {u : Uri} (hv : readLens v = .ok u) :
    handle disk reply s ⟨"textDocument/codeLens", true, some v⟩ = s.codeLens u := by
  have hcall : s.call? ⟨"textDocument/codeLens", true, some v⟩ = some (.lenses u) := by
    rw [call?_eq hphase rfl rfl rfl, Call.ofParams?, hv]
    rfl
  rw [handle_of_call hcall]
  rfl

/-- If the document cannot be parsed, one diagnostic is published and the answer is null. -/
theorem LensesAnswered.null_of_unparsable {step : Step} {u : Uri} (h : LensesAnswered u step)
    (htrue : ∀ ds version, .publish u ds version ∈ step.sent → Truthful step.server u ds version)
    (henabled : step.server.settings.diagnostics.enabled = true)
    (hun : step.server.store.Unparsable u) :
    ∃ d, step.sent = [.publish u [d] (step.server.store.version? u)] ∧
      step.response = .result .null := by
  cases h with
  | null server ds version =>
    have htrue := htrue ds version (List.mem_singleton_self _)
    obtain ⟨d, rfl⟩ := htrue.singleton henabled hun
    exact ⟨d, by rw [htrue.current], rfl⟩
  | found server version ls =>
    have htrue := htrue [] version (List.mem_singleton_self _)
    exact absurd rfl (htrue.ne_nil_iff.mpr ⟨henabled, hun⟩)

end

/-- Whatever is published in the course of a session is true at the time. A request for lenses
publishes once, and is answered with lenses only if no diagnostic is published; a document that is
closed gets its diagnostics taken back. -/
theorem diagnostics_truthful (session : Messages) :
    (∀ step ∈ run {} session, ∀ u ds version, .publish u ds version ∈ step.sent →
      Truthful step.server u ds version) ∧
    ∀ disk reply, (after {} session).phase = .initialized →
      (∀ v u, readLens v = .ok u → LensesAnswered u
        (handle disk reply (after {} session) ⟨"textDocument/codeLens", true, some v⟩)) ∧
      ∀ v u, readClose v = .ok u → (after {} session).store.isOpen u = true →
        (handle disk reply (after {} session) ⟨"textDocument/didClose", false, some v⟩).sent =
          [.publish u [] none] := by
  refine ⟨?_, ?_⟩
  · intro step hstep u ds version hx
    obtain ⟨before, disk, reply, m, rest, rfl, rfl⟩ := mem_run hstep
    have hfollows := follows_after (s := {}) before (Store.follows_run [])
    cases hcall : (after {} before).call? m with
    | none =>
      obtain ⟨level, text, hlog⟩ := (idle_of_no_call hcall).sent _ hx
      cases hlog
    | some c =>
      rw [handle_of_call hcall] at hx ⊢
      exact truthful_act disk reply hfollows c hx
  · intro disk reply hphase
    have hfollows := follows_after (s := {}) session (Store.follows_run [])
    refine ⟨fun v u hv => ?_, fun v u hv hopen => ?_⟩
    · rw [handle_lens disk reply hphase hv]
      exact lensesAnswered_codeLens hfollows u
    · have hcall : (after {} session).call? ⟨"textDocument/didClose", false, some v⟩ =
          some (.close u) := by
        rw [call?_eq hphase rfl rfl rfl, Call.ofParams?, hv]
        rfl
      rw [handle_of_call hcall, act, didClose, if_pos hopen]

/-- A request that names a document and nothing else can be read. -/
theorem readLens_document {v : Value} {u : Uri} (h : document v = .ok u) :
    readLens (.object [("textDocument", v)]) = .ok u := by
  have hsorted : Value.sortedMembers [("textDocument", v)] = [("textDocument", v)] := by
    simp [Value.sortedMembers]
  have hcheck : (Field.of "textDocument" document).check v = .ok () := by
    change checked document v = .ok ()
    rw [checked, h]
    rfl
  have hown : checkMembers [.of "textDocument" document] .ignored [("textDocument", v)] =
      .ok () := checkMembers_eq_ok (by simp [hcheck])
  rw [readLens, keyedMembers_of_sorted (fromObject_of_sorted hsorted hown rfl)]
  · exact h
  · simp only [List.mem_cons, List.not_mem_nil, or_false]
    rintro part (rfl | rfl)
    · exact fromObject_of_sorted hsorted rfl rfl
    · exact fromObject_of_sorted hsorted rfl rfl

/-- A text that starts with a NUL has a fault. -/
theorem analyzeText_nul (rest : List Char) :
    analyzeText ('\x00' :: rest) = .error (faultOf (Tsx.broken ('\x00' :: rest))) := by
  rw [analyzeText, Tsx.parse_nul]
  rfl

theorem unparsable_of_nul {s : Server} {u : Uri} (version : Int) (rest : List Char)
    (h : (s.store.get? u).map (fun d => d.document.page) = some ⟨version, '\x00' :: rest, true⟩) :
    s.store.Unparsable u := by
  obtain ⟨d, hd, hpage⟩ := Option.map_eq_some_iff.mp h
  have htext : d.document.text = '\x00' :: rest := congrArg Page.text hpage
  exact ⟨d, _, hd, congrArg Page.analyzable hpage, htext ▸ analyzeText_nul rest⟩

/-- A document with a fault is opened, looked at and closed: a diagnostic is published, the request
for lenses is answered by null, and the diagnostic is taken back. -/
theorem diagnostics_truthful_sample :
    let start := sampleOpening "\x00"
    let s := after {} start
    let v : Value := .array [.string "file:///src/Card.tsx"]
    let look := handle (.directory []) (.result .null) s
      ⟨"textDocument/codeLens", true, some (.object [("textDocument", v)])⟩
    s.phase = .initialized ∧ s.store.isOpen sampleUri = true ∧ s.store.Unparsable sampleUri ∧
      (∃ step ∈ run {} start, ∃ d, step.sent = [.publish sampleUri [d] (some 1)] ∧
        Truthful step.server sampleUri [d] (some 1)) ∧
      LensesAnswered sampleUri look ∧
      (∃ d, look.sent = [.publish sampleUri [d] (some 1)] ∧ look.response = .result .null) ∧
      (handle (.directory []) (.result .null) s
        ⟨"textDocument/didClose", false, some (.array [v])⟩).sent =
        [.publish sampleUri [] none] := by
  intro start s v look
  have htrue := diagnostics_truthful start
  have hphase : s.phase = .initialized := by rfl
  have hopen : s.store.isOpen sampleUri = true := by rfl
  have hrest := htrue.2 (.directory []) (.result .null) hphase
  have hun : s.store.Unparsable sampleUri := unparsable_of_nul 1 [] (by rfl)
  have hread : readLens (.object [("textDocument", v)]) = .ok sampleUri :=
    readLens_document (by rfl)
  have hasked : LensesAnswered sampleUri look := hrest.1 _ _ hread
  refine ⟨hphase, hopen, hun, ?_, hasked, ?_, hrest.2 _ _ (by rfl) hopen⟩
  · obtain ⟨step, hstep, hserver, ds, hsent⟩ : ∃ step ∈ run {} start, step.server = s ∧
        ∃ ds, step.sent = [.publish sampleUri ds (some 1)] :=
      ⟨_, List.mem_cons_of_mem _ List.mem_cons_self, by rfl, _, by rfl⟩
    have hds : Truthful step.server sampleUri ds (some 1) :=
      htrue.1 step hstep _ _ _ (hsent ▸ List.mem_singleton_self _)
    obtain ⟨d, rfl⟩ := hds.singleton (by rw [hserver]; rfl) (by rw [hserver]; exact hun)
    exact ⟨step, hstep, d, hsent, hds⟩
  · have hlook : look ∈ run {} (start ++ [(.directory [], .result .null,
        ⟨"textDocument/codeLens", true, some (.object [("textDocument", v)])⟩)]) :=
      List.mem_cons_of_mem _ (List.mem_cons_of_mem _ List.mem_cons_self)
    have hanswered := hasked.null_of_unparsable ((diagnostics_truthful _).1 look hlook sampleUri)
    rw [show look = s.codeLens sampleUri from handle_lens _ _ hphase hread] at hanswered ⊢
    exact hanswered rfl (unparsable_of_nul 1 [] (by rfl))

end Server

end Nameplate
