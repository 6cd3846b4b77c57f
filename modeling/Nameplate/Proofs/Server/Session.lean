import Nameplate.Proofs.Document.Follows
import Nameplate.Proofs.Document.Offered
import Nameplate.Proofs.Workspace.Live
import Nameplate.Server.Session

/-!
# Sessions and the documents in them

Most messages have nothing to do with documents. Those that have are acted on in one phase of a
session only, and only if their parameters can be read.

* `Call`: what a client can ask about documents, and `Server.call?`: what a message asks for;
* `handle_of_call`, `idle_of_no_call`: a message is acted on, or it changes no document;
* `Server.after`, `Server.calls`: the state after a session, and what was asked for in its course;
* `follows_act`: what becomes of the documents if a server acts on a call;
* `follows_after`: after a session the documents are those of the calls in it;
* `sampleOpening`: a session in which a document is opened.
-/

namespace Nameplate.Server

open Json (Value Mismatch)
open Workspace (Entry planFile planFiles planFile_run)

/-! ## Calls -/

/-- What a client can ask about documents. -/
inductive Call where
  | opening (p : OpenParams)
  | change (p : ChangeParams)
  | close (uri : Uri)
  | lenses (uri : Uri)
  | command (p : CommandParams)
deriving Repr

/-- What the parameters of a method ask for. -/
def Call.ofParams? (v : Value) : Method → Option Call
  | .didOpen => (OpenParams.read v).toOption.map opening
  | .didChange => (ChangeParams.read v).toOption.map change
  | .didClose => (readClose v).toOption.map close
  | .codeLens => (readLens v).toOption.map lenses
  | .executeCommand => (CommandParams.read v).toOption.map command
  | _ => none

/-- What a message asks for: a request has an identifier, and a notification has none. -/
def Message.call? (m : Message) : Option Call :=
  match Method.ofName? m.method, m.params with
  | some method, some v => if method.isRequest = m.hasId then Call.ofParams? v method else none
  | _, _ => none

/-- What a message asks of a server, which does nothing about documents before it is started and
after it is shut down. -/
def call? (s : Server) (m : Message) : Option Call :=
  if s.phase = .initialized then m.call? else none

/-- What comes of a call. -/
def act (disk : Entry) (reply : Reply) (s : Server) : Call → Step
  | .opening p => s.didOpen p
  | .change p => s.didChange p
  | .close u => s.didClose u
  | .lenses u => s.codeLens u
  | .command p => s.executeCommand disk reply p

/-- A step that changes no document and sends nothing but what is logged. -/
structure Idle (s : Server) (step : Step) : Prop where
  store : step.server.store = s.store
  sent : ∀ x ∈ step.sent, ∃ level text, x = .log level text

section

variable {disk : Entry} {reply : Reply} {s : Server} {m : Message}

/-- What a message asks for in a session, if its kind is right. -/
theorem call?_eq (hphase : s.phase = .initialized) {method : Method} {v : Value}
    (hmethod : Method.ofName? m.method = some method) (hid : method.isRequest = m.hasId)
    (hv : m.params = some v) : s.call? m = Call.ofParams? v method := by
  rw [call?, if_pos hphase, Message.call?, hmethod, hv]
  exact if_pos hid

theorem withParams_of_read {α : Type} {read : Value → Except Mismatch α} {go : α → Step}
    {f : α → Call} {v : Value} {c : Call} (hv : m.params = some v)
    (h : (read v).toOption.map f = some c) : ∃ a, f a = c ∧ withParams s m read go = go a := by
  obtain ⟨a, ha, hc⟩ := Option.map_eq_some_iff.mp h
  cases hread : read v with
  | error e =>
    rw [hread] at ha
    cases ha
  | ok b =>
    rw [hread] at ha
    obtain rfl := Option.some.inj ha
    refine ⟨b, hc, ?_⟩
    rw [withParams, hv]
    simp only [hread]

/-- A call is acted on. -/
theorem handle_of_call {c : Call} (h : s.call? m = some c) :
    handle disk reply s m = s.act disk reply c := by
  unfold call? at h
  split at h <;> [skip; cases h]
  rename_i hphase
  unfold Message.call? at h
  split at h <;> [skip; cases h]
  rename_i method v hmethod hv
  split at h <;> [skip; cases h]
  rename_i hid
  have hhandle : handleMethod disk reply s m method = s.act disk reply c →
      handle disk reply s m = s.act disk reply c := by
    intro hact
    rw [← hact]
    cases method <;> simp_all [handle, phaseError, Call.ofParams?]
  apply hhandle
  cases method with
  | didOpen =>
    obtain ⟨p, rfl, hp⟩ := withParams_of_read hv h
    exact hp
  | didChange =>
    obtain ⟨p, rfl, hp⟩ := withParams_of_read hv h
    exact hp
  | didClose =>
    obtain ⟨u, rfl, hu⟩ := withParams_of_read hv h
    exact hu
  | codeLens =>
    obtain ⟨u, rfl, hu⟩ := withParams_of_read hv h
    exact hu
  | executeCommand =>
    obtain ⟨p, rfl, hp⟩ := withParams_of_read hv h
    exact hp
  | _ => cases h

theorem idle_self (s : Server) (response : Response) : Idle s { server := s, response } :=
  ⟨rfl, nofun⟩

theorem idle_withParams {α : Type} {read : Value → Except Mismatch α} {go : α → Step}
    (h : ∀ v a, m.params = some v → read v = .ok a → Idle s (go a)) :
    Idle s (withParams s m read go) := by
  unfold withParams
  split
  · exact idle_self ..
  · rename_i v hv
    split
    · exact idle_self ..
    · rename_i a ha
      exact h v a hv ha

/-- Parameters that can be read ask for something. -/
theorem ne_none_of_read {α : Type} {read : Value → Except Mismatch α} {f : α → Call} {v : Value}
    {a : α} (h : read v = .ok a) : (read v).toOption.map f ≠ none := by
  rw [h]
  nofun

/-- A method that asks for nothing changes no document. -/
theorem idle_handleMethod {method : Method} (hphase : phaseError s method = none)
    (h : s.phase = .initialized → ∀ v ∈ m.params, Call.ofParams? v method = none) :
    Idle s (handleMethod disk reply s m method) := by
  cases method with
  | start =>
    refine idle_withParams fun v p _ _ => ?_
    unfold start
    split <;> exact ⟨rfl, nofun⟩
  | initialized =>
    refine idle_withParams fun v p _ _ => ⟨rfl, fun x hx => ?_⟩
    exact ⟨_, _, List.mem_singleton.mp hx⟩
  | shutdown =>
    simp only [handleMethod, withoutParams]
    split <;> exact ⟨rfl, nofun⟩
  | exit => exact ⟨rfl, nofun⟩
  | ready => exact idle_self ..
  | otherRequest =>
    simp only [handleMethod, withOtherParams]
    split
    · exact idle_self ..
    · exact idle_withParams fun _ _ _ _ => idle_self ..
  | otherNotification => exact idle_self ..
  | _ =>
    -- The methods that are about documents: their parameters cannot be read.
    have hinit : s.phase = .initialized := by
      cases hs : s.phase <;> simp_all [phaseError]
    exact idle_withParams fun v a hv ha => absurd (h hinit v hv) (ne_none_of_read ha)

/-- A message that asks for nothing changes no document. -/
theorem idle_of_no_call (h : s.call? m = none) : Idle s (handle disk reply s m) := by
  have hnone : ∀ method, Method.ofName? m.method = some method → method.isRequest = m.hasId →
      s.phase = .initialized → ∀ v ∈ m.params, Call.ofParams? v method = none := by
    intro method hmethod hid hphase v hv
    rwa [call?_eq hphase hmethod hid hv] at h
  unfold handle
  split <;> [exact idle_self ..; skip]
  split
  · unfold handleUnknown
    split <;> exact idle_self ..
  · exact ⟨rfl, nofun⟩
  · rename_i method _ hmethod
    split <;> [exact idle_self ..; skip]
    rename_i hphase
    split
    · rename_i hid
      exact idle_handleMethod hphase (hnone method hmethod hid)
    · exact idle_self ..

end

/-! ## Sessions -/

/-- The messages of a client, each with the disk and the reply at its time. -/
abbrev Messages := List (Entry × Reply × Message)

/-- The server after several messages. -/
def after (s : Server) : Messages → Server
  | [] => s
  | (disk, reply, m) :: rest => after (handle disk reply s m).server rest

/-- What several messages ask for. -/
def calls (s : Server) : Messages → List Call
  | [] => []
  | (disk, reply, m) :: rest =>
    (s.call? m).toList ++ calls (handle disk reply s m).server rest

/-- A step of a run is what comes of a message after those before it. -/
theorem mem_run {s : Server} {session : Messages} {step : Step} (h : step ∈ run s session) :
    ∃ before disk reply m rest, session = before ++ (disk, reply, m) :: rest ∧
      step = handle disk reply (s.after before) m := by
  induction session generalizing s with
  | nil => cases h
  | cons x rest ih =>
    obtain ⟨disk, reply, m⟩ := x
    rcases List.mem_cons.mp h with rfl | h
    · exact ⟨[], disk, reply, m, rest, rfl, rfl⟩
    · obtain ⟨before, disk', reply', m', rest', rfl, hstep⟩ := ih h
      exact ⟨(disk, reply, m) :: before, disk', reply', m', rest', rfl, hstep⟩

/-! ## Documents -/

/-- What a call does to the documents. A change is a change to the first of its texts, if there is
one. -/
def Call.operations : Call → List Operation
  | opening p => [.opening p.uri p.version p.text.toList p.language]
  | change p => (p.texts.head?.map fun text => .change p.uri p.version text.toList).toList
  | close u => [.close u]
  | lenses _ => []
  | command _ => []

section

variable {s : Server} {ops : List Operation}

/-- What is not open need not be closed. -/
theorem close_of_not_open {store : Store} {u : Uri} (h : store.isOpen u = false) :
    store.close u = store := by
  have hnone : ∀ d ∈ store.documents, (d.1 != u) = true := by
    simpa [Store.isOpen, Store.get?] using h
  rw [Store.close, Store.erase, List.filter_eq_self.mpr hnone]

theorem diagnose_snd (store : Store) (d : Settings.Diagnostics) (u : Uri) :
    (diagnose store d u).2 = if d.enabled then (store.analyze u).2 else store := by
  unfold diagnose
  split <;> [skip; rfl]
  split <;> rename_i hx <;> rw [hx]

theorem lenses_snd (store : Store) (label : String) (u : Uri) :
    (lenses store label u).2 = (store.analyze u).2 := by
  unfold lenses
  split <;> rename_i hx <;> rw [hx]

theorem planFile_snd (disk : Entry) (store : Store) (label : String) (path : List String) :
    (planFile disk store label path).2 = (store.analyze (Uri.ofComponents path)).2 := by
  unfold planFile
  dsimp only
  split <;> rename_i hx <;> rw [hx]

theorem follows_lenses {store : Store} (h : store.Follows ops) (label : String) (u : Uri) :
    (lenses store label u).2.Follows ops := by
  rw [lenses_snd]
  exact h.analyze u

theorem follows_diagnose {store : Store} (h : store.Follows ops) (d : Settings.Diagnostics)
    (u : Uri) : (diagnose store d u).2.Follows ops := by
  rw [diagnose_snd]
  split <;> [exact h.analyze u; exact h]

theorem follows_planFiles {store : Store} (h : store.Follows ops) (disk : Entry) (label : String)
    (paths : List (List String)) : (planFiles disk store label paths).2.Follows ops := by
  induction paths generalizing store with
  | nil => exact h
  | cons path paths ih =>
    have hplan : (planFile disk store label path).2.Follows ops := by
      rw [planFile_snd]
      exact h.analyze (Uri.ofComponents path)
    exact ih hplan

theorem follows_planChunks {store : Store} (h : store.Follows ops) (disk : Entry) (label : String)
    (total done : Nat) (chunks : List (List (List String))) :
    (planChunks disk label total store done chunks).2.2.Follows ops := by
  induction chunks generalizing store done with
  | nil => exact h
  | cons chunk chunks ih => exact ih (follows_planFiles h disk label chunk) _

/-- What is found out for a command leaves the texts as they are. -/
theorem follows_compute {disk : Entry} {p : CommandParams} {c : Computed}
    (h : s.store.Follows ops) (hc : compute disk s p = some c) : c.store.Follows ops := by
  obtain ⟨seen, hs, hseen⟩ := id h
  unfold compute at hc
  split at hc
  · obtain rfl := Option.some.inj hc
    split
    · exact h
    · rename_i r _
      exact (hs ▸ applyOne_undisturbed seen s.settings.label r).follows h
  split at hc
  · obtain rfl := Option.some.inj hc
    split
    · exact h
    · rename_i r _
      exact (hs ▸ applyAll_undisturbed seen s.settings.label r).follows h
  split at hc
  · obtain rfl := Option.some.inj hc
    unfold applyWorkspace
    split
    · exact h
    · exact follows_planChunks h ..
  · cases hc

/-- The documents after a call. -/
theorem follows_act (disk : Entry) (reply : Reply) (h : s.store.Follows ops) (c : Call) :
    (s.act disk reply c).server.store.Follows (ops ++ c.operations) := by
  cases c with
  | opening p =>
    have hopen := h.step (.opening p.uri p.version p.text.toList p.language)
    simp only [act, didOpen]
    split
    · exact follows_diagnose hopen ..
    · exact hopen
  | change p =>
    simp only [act, didChange]
    cases htexts : p.texts with
    | nil => simpa [Call.operations, htexts] using h
    | cons text texts =>
      have hchange : (s.store.change p.uri p.version text.toList).Follows
          (ops ++ [.change p.uri p.version text.toList]) :=
        h.step (.change p.uri p.version text.toList)
      simpa [Call.operations, htexts] using hchange
  | close u =>
    have hclose : (s.store.close u).Follows (ops ++ [.close u]) := h.step (.close u)
    simp only [act, didClose]
    split
    · exact hclose
    · rename_i hopen
      rwa [close_of_not_open (by simpa using hopen)] at hclose
  | lenses u =>
    rw [Call.operations, List.append_nil]
    exact follows_diagnose (follows_lenses h s.settings.label u) ..
  | command p =>
    rw [Call.operations, List.append_nil]
    simp only [act, executeCommand]
    split
    · exact h
    · rename_i c hc
      split <;> exact follows_compute h hc

/-- After a session the documents are those of its calls. -/
theorem follows_after (session : Messages) (h : s.store.Follows ops) :
    (s.after session).store.Follows (ops ++ (s.calls session).flatMap Call.operations) := by
  induction session generalizing s ops with
  | nil => simpa [after, calls] using h
  | cons x rest ih =>
    obtain ⟨disk, reply, m⟩ := x
    rw [after, calls]
    cases hcall : s.call? m with
    | none =>
      have hidle := (@idle_of_no_call disk reply s m hcall).store
      exact ih (hidle ▸ h)
    | some c =>
      rw [handle_of_call hcall, Option.toList_some, List.singleton_append, List.flatMap_cons,
        ← List.append_assoc]
      exact ih (follows_act disk reply h c)

end

/-! ## The start of a session -/

/-- The URI of a document. -/
def sampleUri : Uri := ⟨"file", some "", "/src/Card.tsx", none, none⟩

/-- A message with its parameters in their order, at a time when nothing is on the disk. -/
def sampleMessage (method : String) (hasId : Bool) (params : List Value) :
    Entry × Reply × Message :=
  (.directory [], .result .null, ⟨method, hasId, some (.array params)⟩)

/-- A server is started, and a document is opened with a text. -/
def sampleOpening (text : String) : Messages :=
  [sampleMessage "initialize" true
      [.null, .null, .null, .null, .array (List.replicate 5 .null), .null, .null, .null, .null],
    sampleMessage "textDocument/didOpen" false
      [.array [.string "file:///src/Card.tsx", .string "typescriptreact", .integer 1,
        .string text]]]

/-- The start of a session with a document that has one component. -/
def sampleStart : Messages := sampleOpening "const A = () => 1;"

end Nameplate.Server
