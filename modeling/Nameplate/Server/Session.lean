import Nameplate.Json.Writer
import Nameplate.Server.Basic
import Nameplate.Server.Params.Request

/-!
# Sessions

A session starts with a successful `initialize`, takes messages until `shutdown`, and ends with
`exit`. `handle` takes a message of a client in any phase. A message is dealt with before the next
one is taken, and nothing is cancelled: two handlers never run at the same time.

* `Method`: the messages of the protocol;
* `handle`: what comes of a message;
* `run`: what comes of several messages, each with the disk and the reply at its time.
-/

namespace Nameplate.Server

open Json (Value Mismatch)
open Workspace (Entry)

/-! ## Methods -/

/-- The messages of the protocol. -/
inductive Method where
  | start
  | initialized
  | shutdown
  | exit
  /-- The client has finished its own start. -/
  | ready
  | didOpen
  | didChange
  | didClose
  | codeLens
  | executeCommand
  /-- A request that the server does not answer. -/
  | otherRequest
  /-- A notification that the server does not need. -/
  | otherNotification
deriving DecidableEq, Repr

/-- Notifications of the protocol that the server does not need. -/
def otherNotifications : List String :=
  ["textDocument/willSave", "textDocument/didSave", "workspace/didChangeConfiguration",
   "workspace/didChangeWorkspaceFolders", "workspace/didCreateFiles", "workspace/didRenameFiles",
   "workspace/didDeleteFiles", "workspace/didChangeWatchedFiles", "$/cancelRequest"]

/-- The method with a name. -/
def Method.ofName? (name : String) : Option Method :=
  match name with
  | "initialize" => some .start
  | "initialized" => some .initialized
  | "shutdown" => some .shutdown
  | "exit" => some .exit
  | "remod/initialize" => some .ready
  | "textDocument/didOpen" => some .didOpen
  | "textDocument/didChange" => some .didChange
  | "textDocument/didClose" => some .didClose
  | "textDocument/codeLens" => some .codeLens
  | "workspace/executeCommand" => some .executeCommand
  | _ =>
    if (Request.params? name).isSome then some .otherRequest
    else if otherNotifications.contains name then some .otherNotification
    else none

/-- Whether a method is a request. -/
def Method.isRequest : Method → Bool
  | start => true
  | shutdown => true
  | codeLens => true
  | executeCommand => true
  | otherRequest => true
  | _ => false

/-! ## Handling -/

/-- An answer without any effect; only requests are answered. -/
def answer (s : Server) (m : Message) (e : ResponseError) : Step :=
  { server := s, response := if m.hasId then .error e else .silent }

/-- Goes on with the parameters of a message, if they can be read. -/
def withParams {α : Type} (s : Server) (m : Message) (read : Value → Except Mismatch α)
    (go : α → Step) : Step :=
  match m.params with
  | none => answer s m (invalidParams "Missing params field")
  | some v =>
    match read v with
    | .error e => answer s m (invalidParams e.message)
    | .ok a => go a

/-- Goes on with a message that has no parameters. -/
def withoutParams (s : Server) (m : Message) (go : Step) : Step :=
  match m.params with
  | none => go
  | some v => answer s m (invalidParams ("Unexpected params: " ++ v.write))

/-- Goes on with the parameters of a request that is not answered. -/
def withOtherParams (s : Server) (m : Message) (go : Step) : Step :=
  match Request.params? m.method with
  | none => go
  | some read => withParams s m read fun _ => go

/-- What comes of a message of a method, once its kind and the phase are right. -/
def handleMethod (disk : Entry) (reply : Reply) (s : Server) (m : Message) : Method → Step
  | .start => withParams s m StartParams.read s.start
  | .initialized => withParams s m readNothing fun _ => s.initialized disk
  | .shutdown =>
    let s := { s with phase := .shutDown }
    withoutParams s m { server := s, response := .result .null }
  | .exit => { server := { s with phase := .exited } }
  | .ready => { server := s }
  | .didOpen => withParams s m OpenParams.read s.didOpen
  | .didChange => withParams s m ChangeParams.read s.didChange
  | .didClose => withParams s m readClose s.didClose
  | .codeLens => withParams s m readLens s.codeLens
  | .executeCommand => withParams s m CommandParams.read (s.executeCommand disk reply)
  | .otherRequest => withOtherParams s m (answer s m (methodNotFound none))
  | .otherNotification => { server := s }

/-- What comes of a message whose method is not known. -/
def handleUnknown (s : Server) (m : Message) : Step :=
  if m.method.startsWith "$/" then { server := s }
  else answer s m (methodNotFound (some m.method))

/-- What is wrong with the phase in which a message comes. -/
def phaseError (s : Server) (method : Method) : Option ResponseError :=
  match method, s.phase with
  | .start, .uninitialized => none
  | .start, _ => some invalidRequest
  | _, .initialized => none
  | _, .uninitialized => some notInitialized
  | _, _ => some invalidRequest

/-- What comes of a message. A request without an identifier has no effect, and a notification with
one is refused. -/
def handle (disk : Entry) (reply : Reply) (s : Server) (m : Message) : Step :=
  if s.phase = .exited then { server := s, response := .exited }
  else match Method.ofName? m.method with
    | none => handleUnknown s m
    | some .exit => handleMethod disk reply s m .exit
    | some method =>
      match phaseError s method with
      | some e => answer s m e
      | none =>
        if method.isRequest = m.hasId then handleMethod disk reply s m method
        else answer s m invalidRequest

/-- What comes of several messages, each with the disk and the reply of the client at its time. -/
def run (s : Server) : List (Entry × Reply × Message) → List Step
  | [] => []
  | (disk, reply, m) :: rest =>
    let step := handle disk reply s m
    step :: run step.server rest

end Nameplate.Server
