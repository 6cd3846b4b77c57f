import Nameplate.Server.Params.Capabilities

/-!
# Parameters of messages

What the parameters of each message must look like, and what the server takes from them.
-/

namespace Nameplate.Server

open Json (Value Mismatch Reader)

/-! ## Starting -/

/-- What the server takes from a client that starts it. -/
structure StartParams where
  options : Option Value
  rootUri : Option Uri
  folders : Option (List Uri)
deriving Repr

/-- A folder of a workspace. -/
def folder : Reader Uri := fun v => do
  let ms ← Json.members "WorkspaceFolder" [.of "uri" Json.uri, .of "name" Json.text] .ignored v
  Json.uri (Json.valueOf ms "uri")

/-- The name and the version of a client. -/
def clientInfo : Reader Unit :=
  Json.record "ClientInfo" [.of "name" Json.text, .optional "version" Json.text]

/-- How much a client wants to be told. -/
def trace : Reader String := Json.word ["off", "messages", "verbose"]

def StartParams.read (v : Value) : Except Mismatch StartParams := do
  let ms ← Json.members "InitializeParams"
    [.optional "processId" Json.nat32,
     .optional "rootPath" Json.text,
     .of "rootUri" (Json.optional Json.uri) .defaulted,
     .of "initializationOptions" Json.anything .optional,
     .of "capabilities" capabilities,
     .of "trace" (Json.optional trace) .defaulted,
     .optional "workspaceFolders" (Json.items folder),
     .optional "clientInfo" clientInfo,
     .optional "locale" Json.text] .ignored v
  pure
    { options := (ms.find? fun m => m.1 == "initializationOptions").map Prod.snd
      rootUri := ← Json.optional Json.uri (Json.valueOf ms "rootUri")
      folders := ← Json.optional (Json.items folder) (Json.valueOf ms "workspaceFolders") }

/-- Parameters that say nothing. -/
def readNothing : Reader Unit := Json.record "InitializedParams" []

/-! ## Documents -/

/-- A document that is opened. -/
structure OpenParams where
  uri : Uri
  language : String
  version : Int
  text : String
deriving Repr

def documentItem : Reader OpenParams := fun v => do
  let ms ← Json.members "TextDocumentItem"
    [.of "uri" Json.uri, .of "languageId" Json.text, .of "version" Json.int32,
     .of "text" Json.text] .ignored v
  pure
    { uri := ← Json.uri (Json.valueOf ms "uri")
      language := ← Json.text (Json.valueOf ms "languageId")
      version := ← Json.int32 (Json.valueOf ms "version")
      text := ← Json.text (Json.valueOf ms "text") }

def OpenParams.read (v : Value) : Except Mismatch OpenParams := do
  let ms ← Json.members "DidOpenTextDocumentParams" [.of "textDocument" documentItem] .ignored v
  documentItem (Json.valueOf ms "textDocument")

/-- A document that is changed: its new version, and its texts one after the other. -/
structure ChangeParams where
  uri : Uri
  version : Int
  texts : List String
deriving Repr

/-- A version of a document. -/
def versionedDocument : Reader (Uri × Int) := fun v => do
  let ms ← Json.members "VersionedTextDocumentIdentifier"
    [.of "uri" Json.uri, .of "version" Json.int32] .ignored v
  pure (← Json.uri (Json.valueOf ms "uri"), ← Json.int32 (Json.valueOf ms "version"))

/-- The text of a change; its range does not count. -/
def contentChange : Reader String := fun v => do
  let ms ← Json.members "TextDocumentContentChangeEvent"
    [.optional "range" range,
     .optional "rangeLength" Json.nat32,
     .of "text" Json.text] .ignored v
  Json.text (Json.valueOf ms "text")

def ChangeParams.read (v : Value) : Except Mismatch ChangeParams := do
  let ms ← Json.members "DidChangeTextDocumentParams"
    [.of "textDocument" versionedDocument, .of "contentChanges" (Json.items contentChange)]
    .ignored v
  let (uri, version) ← versionedDocument (Json.valueOf ms "textDocument")
  pure { uri, version, texts := ← Json.items contentChange (Json.valueOf ms "contentChanges") }

/-- The document that is closed. -/
def readClose (v : Value) : Except Mismatch Uri := do
  let ms ← Json.members "DidCloseTextDocumentParams" [.of "textDocument" document] .ignored v
  document (Json.valueOf ms "textDocument")

/-! ## Requests -/

/-- The document whose lenses are asked for. -/
def readLens (v : Value) : Except Mismatch Uri := do
  let ms ← Json.keyedMembers "CodeLensParams" [.of "textDocument" document]
    [Part.progress, Part.partialResult] v
  document (Json.valueOf ms "textDocument")

/-- A command and its arguments. -/
structure CommandParams where
  command : String
  arguments : List Value
deriving Repr

def CommandParams.read (v : Value) : Except Mismatch CommandParams := do
  let ms ← Json.keyedMembers "ExecuteCommandParams"
    [.of "command" Json.text, .of "arguments" (Json.items Json.anything) .defaulted]
    [Part.progress] v
  pure
    { command := ← Json.text (Json.valueOf ms "command")
      arguments := ←
        match ms.find? fun m => m.1 == "arguments" with
        | some m => Json.items Json.anything m.2
        | none => pure [] }

/-! ## Replies -/

/-- What a client says about an edit it was asked to apply. -/
structure Applied where
  applied : Bool
  reason : Option String
deriving DecidableEq, Repr

def Applied.fields : List Json.Field :=
  [.of "applied" Json.boolean,
   .optional "failureReason" Json.text,
   .optional "failedChange" Json.nat32]

def Applied.read (v : Value) : Except Mismatch Applied := do
  let ms ← Json.members "ApplyWorkspaceEditResponse" fields .ignored v
  pure
    { applied := ← Json.boolean (Json.valueOf ms "applied")
      reason := ← Json.optional Json.text (Json.valueOf ms "failureReason") }

end Nameplate.Server
