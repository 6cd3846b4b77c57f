import Nameplate.Server.Message

/-!
# Messages as values

The objects the server sends and answers with. Members without a value are left out, except for the
version of a document in an edit.
-/

namespace Nameplate.Server

open Json (Value)
open Naming (PositionedEdit)
open Text (Position Span)

/-- An object of the members that have a value. -/
def present (members : List (String × Option Value)) : Value :=
  .object (members.filterMap fun m => m.2.map fun v => (m.1, v))

/-- A value or null. -/
def orNull : Option Value → Value
  | some v => v
  | none => .null

def ofPosition (p : Position) : Value :=
  .object [("line", .ofNat p.line), ("character", .ofNat p.character)]

def ofSpan (s : Span) : Value :=
  .object [("start", ofPosition s.start), ("end", ofPosition s.stop)]

def ofEdit (e : PositionedEdit) : Value :=
  .object [("range", ofSpan e.span), ("newText", .string e.newText)]

def ofDocumentEdit (e : DocumentEdit) : Value :=
  .object
    [("textDocument",
      .object [("uri", .string e.uri.text), ("version", orNull (e.version.map .integer))]),
     ("edits", .array (e.edits.map ofEdit))]

def ofWorkspaceEdit (e : WorkspaceEdit) : Value :=
  .object [("documentChanges", .array (e.map ofDocumentEdit))]

def ofAction (a : Action) : Value :=
  present [("title", some (.string a.title)), ("command", some (.string a.command)),
    ("arguments", a.arguments.map .array)]

def ofLens (l : Lens) : Value :=
  .object [("range", ofSpan l.span), ("command", ofAction l.action)]

/-- The name under which diagnostics are shown. -/
def diagnosticSource : String := "remod"

def ofDiagnostic (d : Diagnostic) : Value :=
  .object [("range", ofSpan d.span), ("severity", .ofNat d.severity.number),
    ("source", .string diagnosticSource), ("message", .string d.message)]

/-- The share of work that is done, in percent. -/
def percentage (done total : Nat) : Nat := if total = 0 then 100 else done * 100 / total

def ofProgress : Progress → Value
  | .started title message =>
    .object [("kind", .string "begin"), ("title", .string title), ("cancellable", .bool false),
      ("message", .string message), ("percentage", .ofNat 0)]
  | .report done total =>
    .object [("kind", .string "report"), ("cancellable", .bool false),
      ("message", .string (toString done ++ "/" ++ toString total ++ " files")),
      ("percentage", .ofNat (percentage done total))]
  | .ended message => .object [("kind", .string "end"), ("message", .string message)]

/-- The name under which the server shows its progress. -/
def progressToken : Value := .string "remod-workspace"

namespace Outgoing

/-- The method of a message. -/
def method : Outgoing → String
  | log _ _ => "window/logMessage"
  | publish _ _ _ => "textDocument/publishDiagnostics"
  | createProgress => "window/workDoneProgress/create"
  | progress _ => "$/progress"
  | applyEdit _ => "workspace/applyEdit"

/-- Whether the client has to answer a message. -/
def isRequest : Outgoing → Bool
  | createProgress => true
  | applyEdit _ => true
  | _ => false

/-- The parameters of a message. -/
def params : Outgoing → Value
  | log level message => .object [("type", .ofNat level.number), ("message", .string message)]
  | publish uri diagnostics version =>
    present [("uri", some (.string uri.text)),
      ("diagnostics", some (.array (diagnostics.map ofDiagnostic))),
      ("version", version.map .integer)]
  | createProgress => .object [("token", progressToken)]
  | progress p => .object [("token", progressToken), ("value", ofProgress p)]
  | applyEdit edit => .object [("edit", ofWorkspaceEdit edit)]

end Outgoing

/-- What the server can do. -/
def serverInfo : Value :=
  .object
    [("capabilities",
      .object
        [("textDocumentSync", .ofNat 1),
         ("codeLensProvider", .object [("resolveProvider", .bool false)]),
         ("executeCommandProvider", .object [("commands", .array (commandNames.map .string))])]),
     ("serverInfo", .object [("name", .string "remod-lsp"), ("version", .string "0.1.0")])]

end Nameplate.Server
