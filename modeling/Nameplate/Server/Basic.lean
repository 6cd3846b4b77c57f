import Nameplate.Server.Encode
import Nameplate.Server.Params
import Nameplate.Settings.Basic
import Nameplate.Workspace.Plan
import Nameplate.Workspace.Walk

/-!
# The server

What the server does about each message it understands, once it is started. A handler takes the
state of the server to the next one, with the messages it sends on the way and its answer. What it
works out beside itself always comes to its end: no request is answered by `RequestError.task`, the
error of work that was given up.

* `start`, `initialized`: the start, and the settings of the workspace;
* `didOpen`, `didChange`, `didClose`: the documents of the client;
* `codeLens`, `executeCommand`: the requests of the client.
-/

namespace Nameplate

open Json (Value)
open Server
open Settings (Configuration Options)
open Workspace (Entry FilePlan Summary)

/-- How far a session is. -/
inductive Phase where
  | uninitialized
  | initialized
  | shutDown
  | exited
deriving DecidableEq, Repr

/-- The state of a server. -/
structure Server where
  phase : Phase := .uninitialized
  store : Store := {}
  root : Option Uri := none
  options : Option Options := none
  settings : Settings := {}
deriving Repr, Inhabited

namespace Server

/-- What comes of a message: the next state, what is sent to the client, and the answer. -/
structure Step where
  server : Server
  sent : List Outgoing := []
  response : Response := .silent

/-! ## The start -/

/-- Starts the server, unless the options of the client are refused. -/
def start (s : Server) (p : StartParams) : Step :=
  match Options.ofValue p.options with
  | .error e => { server := s, response := .error (invalidParams e.message) }
  | .ok options =>
    { server :=
        { s with
          phase := .initialized
          options
          root := p.rootUri <|> p.folders.bind List.head? }
      response := .result serverInfo }

/-- The configuration of the workspace at a root. -/
def configurationAt (disk : Entry) (root : Option Uri) : Configuration :=
  match root.bind Workspace.pathOf? with
  | some path => .ofFile (disk.read? (path ++ [Settings.configurationFile]))
  | none => {}

/-- Takes the settings of the workspace into force. -/
def initialized (disk : Entry) (s : Server) : Step :=
  let settings := Settings.resolve (configurationAt disk s.root) s.options
  { server := { s with settings }
    sent := [.log .info
      ("remod-lsp initialized (displayName prefix: " ++ settings.label ++ ")")] }

/-! ## Documents -/

/-- The diagnostics of a document as a message, and the server that keeps its analysis. -/
def publish (s : Server) (u : Uri) : Outgoing × Server :=
  let version := s.store.version? u
  let (diagnostics, store) := diagnose s.store s.settings.diagnostics u
  (.publish u diagnostics version, { s with store })

/-- Opens a document, and publishes its diagnostics if it is searched for components. -/
def didOpen (s : Server) (p : OpenParams) : Step :=
  let s := { s with store := s.store.openDocument p.uri p.version p.text.toList p.language }
  if isTsxDocument p.uri p.language then
    let (message, s) := s.publish p.uri
    { server := s, sent := [message] }
  else { server := s }

/-- Changes a document to the first of its new texts. -/
def didChange (s : Server) (p : ChangeParams) : Step :=
  match p.texts with
  | [] => { server := s }
  | text :: _ => { server := { s with store := s.store.change p.uri p.version text.toList } }

/-- Closes a document, and takes its diagnostics back if it was open. -/
def didClose (s : Server) (u : Uri) : Step :=
  if s.store.isOpen u then
    { server := { s with store := s.store.close u }, sent := [.publish u [] none] }
  else { server := s }

/-! ## Lenses -/

/-- Answers with the lenses of a document, and publishes its diagnostics. -/
def codeLens (s : Server) (u : Uri) : Step :=
  let (found, store) := lenses s.store s.settings.label u
  let (message, s) := { s with store }.publish u
  { server := s
    sent := [message]
    response := .result (orNull (found.map fun ls => .array (ls.map ofLens))) }

/-! ## Commands -/

/-- The number of files that are planned before progress is reported. -/
def chunkSize : Nat := 32

/-- A list in pieces of a length, the last of which may be shorter; `fuel` bounds their number. -/
def chunksOf {α : Type} (n : Nat) : Nat → List α → List (List α)
  | 0, _ => []
  | _ + 1, [] => []
  | fuel + 1, a :: l => (a :: l).take n :: chunksOf n fuel ((a :: l).drop n)

/-- Plans files piece by piece and reports after each piece; `done` files were planned before. -/
def planChunks (disk : Entry) (label : String) (total : Nat) :
    Store → Nat → List (List (List String)) → List FilePlan × List Outgoing × Store
  | s, _, [] => ([], [], s)
  | s, done, chunk :: chunks =>
    let (plans, s) := Workspace.planFiles disk s label chunk
    let done := done + plans.length
    let (rest, reports, s) := planChunks disk label total s done chunks
    (plans ++ rest, .progress (.report done total) :: reports, s)

/-- The local path of a workspace. -/
def rootPath (root : Option Uri) : Except RequestError (List String) :=
  match root with
  | none => .error (.invalidArguments "no workspace root")
  | some u =>
    match Workspace.pathOf? u with
    | some path => .ok path
    | none => .error (.invalidArguments ("workspace root is not a local path: " ++ u.text))

/-- The paths of the files of a workspace that count. -/
def workspaceFiles (disk : Entry) (s : Server) (root : List String) : List (List String) :=
  match disk.lookup root with
  | some directory => (Workspace.collect s.settings.filter [] directory).map (root ++ ·)
  | none => []

/-- What comes of a command: an edit, none, or an error, with the messages on the way. -/
structure Computed where
  sent : List Outgoing := []
  edit : Except RequestError (Option WorkspaceEdit)
  store : Store

/-- The edits that name all components of a workspace. -/
def applyWorkspace (disk : Entry) (s : Server) : Computed :=
  match rootPath s.root with
  | .error e => { edit := .error e, store := s.store }
  | .ok root =>
    let files := workspaceFiles disk s root
    let (plans, reports, store) :=
      planChunks disk s.settings.label files.length s.store 0
        (chunksOf chunkSize files.length files)
    let summary := Summary.ofPlans plans
    { sent :=
        [.createProgress,
         .progress (.started "Applying displayName" "Collecting files...")] ++ reports ++
        [.progress (.ended summary.message), .log .info summary.message]
      edit := .ok (if summary.documentEdits.isEmpty then none else some summary.documentEdits)
      store }

/-- What comes of a command with a name; there is nothing for a name that is not known. A document
may change while an edit is worked out, so that its version is checked once more. -/
def compute (disk : Entry) (s : Server) (p : CommandParams) : Option Computed :=
  if p.command = applyCommand then
    some <| match readArguments ApplyRequest.read p.arguments with
      | .error e => { edit := .error e, store := s.store }
      | .ok r =>
        let (edit, store) := applyOne s.store s.settings.label r
        { edit := confirm store r.uri r.version edit, store }
  else if p.command = applyAllCommand then
    some <| match readArguments ApplyAllRequest.read p.arguments with
      | .error e => { edit := .error e, store := s.store }
      | .ok r =>
        let (edit, store) := applyAll s.store s.settings.label r
        { edit := confirm store r.uri r.version edit, store }
  else if p.command = applyWorkspaceCommand then some (applyWorkspace disk s)
  else none

/-- What the reply of a client means for the edit it was asked to apply. -/
def outcomeOf (reply : Reply) : Except RequestError Unit :=
  match reply with
  | .error code message => .error (.client (describeCode code ++ ": " ++ message))
  | .result v =>
    match Applied.read v with
    | .error e => .error (.client ("Parse error: " ++ e.message))
    | .ok r =>
      if r.applied then .ok ()
      else .error (.editConflict (r.reason.getD "client rejected the edit"))

/-- Runs a command: an edit is sent to the client, whose reply decides about the answer. -/
def executeCommand (disk : Entry) (reply : Reply) (s : Server) (p : CommandParams) : Step :=
  match compute disk s p with
  | none =>
    { server := s
      sent := [.log .warning ("Unknown command: " ++ p.command)]
      response := .result .null }
  | some c =>
    let s := { s with store := c.store }
    match c.edit with
    | .error e => { server := s, sent := c.sent, response := .error (.ofRequest e) }
    | .ok none => { server := s, sent := c.sent, response := .result .null }
    | .ok (some edit) =>
      { server := s
        sent := c.sent ++ [.applyEdit edit]
        response := match outcomeOf reply with
          | .ok () => .result (ofWorkspaceEdit edit)
          | .error e => .error (.ofRequest e) }

end Server

end Nameplate
