import Nameplate.Proofs.Server.Session

/-!
# The documents of the client

A client tells a server what it opens, changes and closes. A change has a new version and any number
of texts, each of which is the whole text of the document; they are meant one after the other. The
server takes the first of them, and does not take note of a change without texts.

* `Copy`: what one side has of a document, `clientCopy` and `serverCopy`: what the two sides have
  after some calls, and `copy?_after`: the latter is what is in the store;
* `Renews`: a client gives no version twice;
* `Whole`: a change whose first text is its last one;
* `mirrored_iff`: both sides always have the same documents open, and they have the same of a
  document exactly if the last change of it, if it was changed last, is whole.
-/

namespace Nameplate

/-- What one side has of a document. -/
structure Copy where
  version : Int
  text : List Char
deriving DecidableEq, Repr

/-- What a store has of a document. -/
def Store.copy? (s : Store) (u : Uri) : Option Copy :=
  (s.get? u).map fun d => ⟨d.version, d.document.text⟩

def Page.copy (p : Page) : Copy := ⟨p.version, p.text⟩

theorem Store.Follows.copy?_eq {s : Store} {ops : List Operation} (h : s.Follows ops) (u : Uri) :
    s.copy? u = (Reference.run ops u).map Page.copy := by
  rw [← h.page_eq, Store.copy?, Option.map_map]
  obtain ⟨seen, rfl, -⟩ := h
  refine Option.map_congr fun d hd => ?_
  rw [(Store.sound_run seen u d hd).version]
  rfl

namespace Server

open Workspace (Entry)

/-! ## The two sides -/

namespace Call

/-- The call gives a document another text or version, or opens or closes it. -/
def concerns (u : Uri) : Call → Bool
  | opening p => p.uri = u
  | change p => p.uri = u
  | close v => v = u
  | lenses _ => false
  | command _ => false

/-- What a client has of a document once it has made a call. -/
def meant (u : Uri) : Call → Option Copy → Option Copy
  | opening p, d => if p.uri = u then some ⟨p.version, p.text.toList⟩ else d
  | change p, d =>
    if p.uri = u then
      d.map fun d => ⟨p.version, p.texts.foldl (fun _ text => text.toList) d.text⟩
    else d
  | close v, d => if v = u then none else d
  | lenses _, d => d
  | command _, d => d

/-- What a server has of a document once it has acted on a call. -/
def taken (u : Uri) : Call → Option Copy → Option Copy
  | opening p, d => if p.uri = u then some ⟨p.version, p.text.toList⟩ else d
  | change p, d =>
    if p.uri = u then
      match p.texts with
      | [] => d
      | text :: _ => d.map fun _ => ⟨p.version, text.toList⟩
    else d
  | close v, d => if v = u then none else d
  | lenses _, d => d
  | command _, d => d

/-- The versions that a document was given since it was opened; there are none if it is not open. -/
def given (u : Uri) : Call → List Int → List Int
  | opening p, vs => if p.uri = u then [p.version] else vs
  | change p, vs => if p.uri = u ∧ vs ≠ [] then p.version :: vs else vs
  | close v, vs => if v = u then [] else vs
  | lenses _, vs => vs
  | command _, vs => vs

end Call

/-- What a client has of a document after some calls. -/
def clientCopy (u : Uri) (calls : List Call) : Option Copy :=
  calls.foldl (fun d c => c.meant u d) none

/-- What a server has of a document after some calls. -/
def serverCopy (u : Uri) (calls : List Call) : Option Copy :=
  calls.foldl (fun d c => c.taken u d) none

/-- The versions of a document since it was opened. -/
def versionsGiven (u : Uri) (calls : List Call) : List Int :=
  calls.foldl (fun vs c => c.given u vs) []

/-- The last call that concerns a document. -/
def lastAbout (u : Uri) (calls : List Call) : Option Call :=
  (calls.filter (Call.concerns u)).getLast?

/-- A change of a document always has a new version. -/
def Renews (u : Uri) (calls : List Call) : Prop :=
  ∀ before p, before ++ [.change p] <+: calls → p.uri = u → p.version ∉ versionsGiven u before

/-- A change that has texts, of which the first one is also the last one. -/
def Whole (p : ChangeParams) : Prop :=
  ∃ text, p.texts.head? = some text ∧ p.texts.getLast? = some text

/-- If an open document was changed last, it was changed as a whole. -/
def LeftWhole (u : Uri) (calls : List Call) : Prop :=
  ∀ p, lastAbout u calls = some (.change p) → (clientCopy u calls).isSome → Whole p

section

variable {u : Uri} {calls : List Call} {c : Call}

@[simp] theorem clientCopy_append_singleton :
    clientCopy u (calls ++ [c]) = c.meant u (clientCopy u calls) := List.foldl_append

@[simp] theorem serverCopy_append_singleton :
    serverCopy u (calls ++ [c]) = c.taken u (serverCopy u calls) := List.foldl_append

@[simp] theorem versionsGiven_append_singleton :
    versionsGiven u (calls ++ [c]) = c.given u (versionsGiven u calls) := List.foldl_append

/-- What a call does to a page, seen as a copy. -/
theorem copy_operations (ops : List Operation) (c : Call) (u : Uri) :
    (Reference.run (ops ++ c.operations) u).map Page.copy =
      c.taken u ((Reference.run ops u).map Page.copy) := by
  have hstep : ∀ op : Operation, Reference.run (ops ++ [op]) u =
      if op.uri = u then op.page (Reference.run ops u) else Reference.run ops u := fun op => by
    rw [Reference.run_append_singleton, Reference.step]
  cases c with
  | opening p =>
    rw [Call.operations, hstep, Call.taken]
    by_cases hu : p.uri = u
    · simp [Operation.uri, Operation.page, hu, Page.copy]
    · simp [Operation.uri, hu]
  | change p =>
    rw [Call.operations, Call.taken]
    cases p.texts with
    | nil => simp
    | cons text texts =>
      rw [List.head?_cons, Option.map_some, Option.toList_some, hstep]
      by_cases hu : p.uri = u
      · simp [Operation.uri, Operation.page, hu, Page.copy, Function.comp_def]
      · simp [Operation.uri, hu]
  | close v =>
    rw [Call.operations, hstep, Call.taken]
    by_cases hu : v = u
    · simp [Operation.uri, Operation.page, hu]
    · simp [Operation.uri, hu]
  | lenses v => simp [Call.operations, Call.taken]
  | command p => simp [Call.operations, Call.taken]

theorem copy_run (u : Uri) (calls : List Call) :
    (Reference.run (calls.flatMap Call.operations) u).map Page.copy = serverCopy u calls := by
  induction calls using List.reverseRecOn with
  | nil => rfl
  | append_singleton calls c ih =>
    rw [List.flatMap_append, List.flatMap_singleton, copy_operations, ih,
      serverCopy_append_singleton]

/-- What the store has of a document after a session. -/
theorem copy?_after (session : Messages) (u : Uri) :
    (after {} session).store.copy? u = serverCopy u (Server.calls {} session) := by
  have h := follows_after (s := {}) session (Store.follows_run [])
  rw [h.copy?_eq, List.nil_append, copy_run]

/-! ## Comparing them -/

theorem meant_of_not_concerns (h : c.concerns u = false) (d : Option Copy) : c.meant u d = d := by
  cases c <;> simp_all [Call.concerns, Call.meant]

theorem taken_of_not_concerns (h : c.concerns u = false) (d : Option Copy) : c.taken u d = d := by
  cases c <;> simp_all [Call.concerns, Call.taken]

theorem given_of_not_concerns (h : c.concerns u = false) (vs : List Int) : c.given u vs = vs := by
  cases c <;> simp_all [Call.concerns, Call.given]

theorem renews_nil (u : Uri) : Renews u [] := by
  intro before p hp
  simp at hp

/-- One more call gives a new version, if it is a change. -/
theorem renews_append_singleton : Renews u (calls ++ [c]) ↔
    Renews u calls ∧ ∀ p, c = .change p → p.uri = u → p.version ∉ versionsGiven u calls := by
  constructor
  · intro h
    refine ⟨fun before p hp => h before p (hp.trans (List.prefix_append ..)), ?_⟩
    rintro p rfl
    exact h calls p List.prefix_rfl
  · rintro ⟨h, hc⟩ before p hp
    rcases List.prefix_concat_iff.mp hp with heq | hp
    · obtain ⟨rfl, hlast⟩ := List.append_inj' heq rfl
      exact hc p (List.singleton_inj.mp hlast).symm
    · exact h before p hp

/-- Both sides have the same documents open. -/
theorem isSome_serverCopy (u : Uri) (calls : List Call) :
    (serverCopy u calls).isSome = (clientCopy u calls).isSome := by
  induction calls using List.reverseRecOn with
  | nil => rfl
  | append_singleton calls c ih =>
    rw [serverCopy_append_singleton, clientCopy_append_singleton]
    cases c with
    | opening p =>
      simp only [Call.taken, Call.meant]
      split <;> [rfl; exact ih]
    | change p =>
      simp only [Call.taken, Call.meant]
      split <;> [skip; exact ih]
      split <;> simpa using ih
    | close v =>
      simp only [Call.taken, Call.meant]
      split <;> [rfl; exact ih]
    | lenses v => exact ih
    | command p => exact ih

/-- The version that a server has was given to the document. -/
theorem version_mem_versionsGiven (u : Uri) (calls : List Call) :
    ∀ d ∈ serverCopy u calls, d.version ∈ versionsGiven u calls := by
  induction calls using List.reverseRecOn with
  | nil => nofun
  | append_singleton calls c ih =>
    rw [serverCopy_append_singleton, versionsGiven_append_singleton]
    cases hc : c.concerns u with
    | false => rwa [taken_of_not_concerns hc, given_of_not_concerns hc]
    | true =>
      cases c with
      | opening p =>
        obtain rfl : p.uri = u := by simpa [Call.concerns] using hc
        simp [Call.taken, Call.given]
      | change p =>
        obtain rfl : p.uri = u := by simpa [Call.concerns] using hc
        intro d hd
        simp only [Call.taken, if_true] at hd
        split at hd
        · have hmem := ih d hd
          simp [Call.given, List.ne_nil_of_mem hmem, hmem]
        · obtain ⟨e, he, rfl⟩ := Option.map_eq_some_iff.mp hd
          simp [Call.given, List.ne_nil_of_mem (ih e he)]
      | close v =>
        obtain rfl : v = u := by simpa [Call.concerns] using hc
        simp [Call.taken]
      | lenses v => cases hc
      | command p => cases hc

theorem foldl_last {α β : Type} (f : α → β) (l : List α) (b : β) :
    l.foldl (fun _ a => f a) b = (l.getLast?.map f).getD b := by
  induction l using List.reverseRecOn with
  | nil => rfl
  | append_singleton l a _ => simp

theorem lastAbout_append_singleton :
    lastAbout u (calls ++ [c]) = if c.concerns u then some c else lastAbout u calls := by
  rw [lastAbout, List.filter_append]
  cases hc : c.concerns u <;> simp [hc, lastAbout]

/-- A change of a document that both sides have open. -/
theorem taken_eq_meant_iff {p : ChangeParams} {d e : Copy} (hversion : d.version ≠ p.version) :
    (Call.change p).taken p.uri (some d) = (Call.change p).meant p.uri (some e) ↔ Whole p := by
  simp only [Call.taken, Call.meant, if_true, foldl_last, Option.map_some]
  unfold Whole
  cases p.texts with
  | nil =>
    refine iff_of_false (fun h => hversion ?_) (by simp)
    exact congrArg Copy.version (Option.some.inj h)
  | cons text texts =>
    simp [List.getLast?_cons, String.toList_inj, eq_comm]

/-- Both sides have the same of a document exactly if it was left whole. -/
theorem serverCopy_eq_iff (h : Renews u calls) :
    serverCopy u calls = clientCopy u calls ↔ LeftWhole u calls := by
  induction calls using List.reverseRecOn with
  | nil => exact iff_of_true rfl nofun
  | append_singleton calls c ih =>
    unfold LeftWhole
    rw [lastAbout_append_singleton, clientCopy_append_singleton, serverCopy_append_singleton]
    cases hc : c.concerns u with
    | false =>
      -- The call is about something else.
      rw [taken_of_not_concerns hc, meant_of_not_concerns hc]
      exact ih (renews_append_singleton.mp h).1
    | true =>
      cases c with
      | opening p =>
        obtain rfl : p.uri = u := by simpa [Call.concerns] using hc
        exact iff_of_true (by simp [Call.taken, Call.meant]) nofun
      | close v =>
        obtain rfl : v = u := by simpa [Call.concerns] using hc
        exact iff_of_true (by simp [Call.taken, Call.meant]) nofun
      | lenses v => cases hc
      | command p => cases hc
      | change p =>
        obtain rfl : p.uri = u := by simpa [Call.concerns] using hc
        have hopen := isSome_serverCopy p.uri calls
        cases hserver : serverCopy p.uri calls with
        | none =>
          obtain hclient : clientCopy p.uri calls = none := by simpa [hserver] using hopen
          rw [hclient]
          refine iff_of_true ?_ ?_
          · simp only [Call.taken, Call.meant, if_true]
            split <;> rfl
          · simp [Call.meant]
        | some d =>
          obtain ⟨e, hclient⟩ : ∃ e, clientCopy p.uri calls = some e := by
            simpa [hserver, Option.isSome_iff_exists] using hopen.symm
          have hgiven := version_mem_versionsGiven p.uri calls d hserver
          have hversion : d.version ≠ p.version := by
            intro he
            exact (renews_append_singleton.mp h).2 p rfl rfl (he ▸ hgiven)
          rw [hclient, taken_eq_meant_iff hversion]
          simp [Call.meant]

/-- After any session both sides have the same documents open. A server has the version and the text
that its client has exactly if the document was left whole: if it was changed last, by a change with
at least one text whose first text is the last one. -/
theorem mirrored_iff (session : Messages) (u : Uri) (h : Renews u (Server.calls {} session)) :
    ((after {} session).store.isOpen u = (clientCopy u (Server.calls {} session)).isSome) ∧
    ((after {} session).store.copy? u = clientCopy u (Server.calls {} session) ↔
      LeftWhole u (Server.calls {} session)) := by
  have hopen : (after {} session).store.isOpen u =
      (serverCopy u (Server.calls {} session)).isSome := by
    rw [← copy?_after, Store.copy?, Option.isSome_map, Store.isOpen]
  rw [hopen, copy?_after]
  exact ⟨isSome_serverCopy u _, serverCopy_eq_iff h⟩

end

/-! ## A session -/

/-- A server is started, and a document is opened and changed to some texts. -/
def sampleSession (texts : List String) : Messages :=
  sampleStart ++
    [sampleMessage "textDocument/didChange" false
      [.array [.string "file:///src/Card.tsx", .integer 2],
        .array (texts.map fun text => .array [.null, .null, .string text])]]

/-- What the client asks for in the session. -/
def sampleCalls (texts : List String) : List Call :=
  [.opening ⟨sampleUri, "typescriptreact", 1, "const A = () => 1;"⟩, .change ⟨sampleUri, 2, texts⟩]

theorem renews_sampleCalls (texts : List String) : Renews sampleUri (sampleCalls texts) := by
  have hsplit : sampleCalls texts = [] ++
      [.opening ⟨sampleUri, "typescriptreact", 1, "const A = () => 1;"⟩] ++
      [.change ⟨sampleUri, 2, texts⟩] := rfl
  rw [hsplit, renews_append_singleton, renews_append_singleton]
  refine ⟨⟨renews_nil _, nofun⟩, ?_⟩
  rintro p ⟨⟩ -
  simp [versionsGiven, Call.given]

/-- A document that is changed to several texts, the first of which is the last. -/
theorem mirrored_iff_sample :
    let session := sampleSession ["b", "c", "b"]
    Renews sampleUri (Server.calls {} session) ∧
      (after {} session).store.copy? sampleUri = clientCopy sampleUri (Server.calls {} session) ∧
      clientCopy sampleUri (Server.calls {} session) = some ⟨2, ['b']⟩ := by
  intro session
  have hcalls : Server.calls {} session = sampleCalls ["b", "c", "b"] := by rfl
  have hnew : Renews sampleUri (Server.calls {} session) := hcalls ▸ renews_sampleCalls _
  refine ⟨hnew, (mirrored_iff session sampleUri hnew).2.mpr ?_, by rw [hcalls]; decide +kernel⟩
  rw [hcalls]
  rintro p hp -
  obtain rfl : _ = p := by simpa [lastAbout, sampleCalls, Call.concerns] using hp
  exact ⟨"b", rfl, rfl⟩

/-- A change to two texts is taken for a change to the first one, and a change to none is not taken
at all. -/
theorem not_mirrored :
    (Renews sampleUri (Server.calls {} (sampleSession ["b", "c"])) ∧
      (after {} (sampleSession ["b", "c"])).store.copy? sampleUri = some ⟨2, ['b']⟩ ∧
      clientCopy sampleUri (Server.calls {} (sampleSession ["b", "c"])) = some ⟨2, ['c']⟩) ∧
    (Renews sampleUri (Server.calls {} (sampleSession [])) ∧
      (after {} (sampleSession [])).store.copy? sampleUri =
        some ⟨1, "const A = () => 1;".toList⟩ ∧
      clientCopy sampleUri (Server.calls {} (sampleSession [])) =
        some ⟨2, "const A = () => 1;".toList⟩) := by
  have htwo : Server.calls {} (sampleSession ["b", "c"]) = sampleCalls ["b", "c"] := by rfl
  have hnone : Server.calls {} (sampleSession []) = sampleCalls [] := by rfl
  rw [copy?_after, copy?_after, htwo, hnone]
  exact ⟨⟨renews_sampleCalls _, by decide +kernel, by decide +kernel⟩,
    ⟨renews_sampleCalls _, by decide +kernel, by decide +kernel⟩⟩

end Server

end Nameplate
