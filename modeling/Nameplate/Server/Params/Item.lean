import Nameplate.Server.Params.Basic

/-!
# Things that a client sends back

Some requests hold what a server has answered before, to ask for more of it.

* `diagnostic`, `workspaceEdit`, `codeAction`: what can be done about a document;
* `callItem`, `typeItem`, `workspaceSymbol`: symbols;
* `completionItem`, `signatureHelp`, `inlayHint`, `documentLink`, `codeLens`: what is shown with a
  text.
-/

namespace Nameplate.Server.Item

open Json (Reader Value)

/-! ## Actions -/

def diagnostic : Reader Unit :=
  Json.record "Diagnostic"
    [.of "range" range,
     .optional "severity" Json.int32,
     .optional "code" token,
     .optional "codeDescription" (Json.record "CodeDescription" [.of "href" Json.uri]),
     .optional "source" Json.text,
     .of "message" Json.text,
     .optional "relatedInformation"
       (Json.items (Json.record "DiagnosticRelatedInformation"
         [.of "location" location, .of "message" Json.text])),
     .optional "tags" (Json.items Json.int32),
     .optional "data" Json.anything]

/-- The edits of a document. -/
def documentEdit : Reader Unit :=
  Json.record "TextDocumentEdit"
    [.of "textDocument"
       (Json.record "OptionalVersionedTextDocumentIdentifier"
         [.of "uri" Json.uri, .optional "version" Json.int32]),
     .of "edits" (Json.items textEdit)]

/-- What may happen to a file if it is there already. -/
def overwriting (name : String) : Reader Unit :=
  Json.record name [.optional "overwrite" Json.boolean, .optional "ignoreIfExists" Json.boolean]

def createFile : Reader Unit :=
  Json.record "CreateFile"
    [.of "uri" Json.uri,
     .optional "options" (overwriting "CreateFileOptions"),
     .optional "annotationId" Json.text]

def renameFile : Reader Unit :=
  Json.record "RenameFile"
    [.of "oldUri" Json.uri,
     .of "newUri" Json.uri,
     .optional "options" (overwriting "RenameFileOptions"),
     .optional "annotationId" Json.text]

def deleteFile : Reader Unit :=
  Json.record "DeleteFile"
    [.of "uri" Json.uri,
     .optional "options"
       (Json.record "DeleteFileOptions"
         [.optional "recursive" Json.boolean,
          .optional "ignoreIfNotExists" Json.boolean,
          .optional "annotationId" Json.text])]

/-- What happens to a file, by the word that names it. -/
def fileOperation : Reader Unit := fun v =>
  match v.get? "kind" with
  | some (.string "create") => createFile v
  | some (.string "rename") => renameFile v
  | some (.string "delete") => deleteFile v
  | _ => .error (.missingField "kind")

/-- The changes of documents, or changes of documents and files. -/
def documentChanges : Reader Unit :=
  Json.oneOf "DocumentChanges"
    [Json.checked (Json.items documentEdit),
     Json.checked (Json.items
       (Json.oneOf "DocumentChangeOperation" [fileOperation, documentEdit]))]

/-- Edits by the URI of their document. -/
def changes : Reader Unit
  | .object ms => (Value.sortedMembers ms).forM fun m => do
    let _ ← Json.uri (.string m.1)
    let _ ← Json.items textEdit m.2
  | v => .error (.kind v "map")

def workspaceEdit : Reader Unit :=
  Json.record "WorkspaceEdit"
    [.of "changes" (Json.optional changes) .defaulted,
     .optional "documentChanges" documentChanges,
     .optional "changeAnnotations"
       (Json.table (Json.record "ChangeAnnotation"
         [.of "label" Json.text,
          .optional "needsConfirmation" Json.boolean,
          .optional "description" Json.text]))]

def codeAction : Reader Unit :=
  Json.record "CodeAction"
    [.of "title" Json.text,
     .optional "kind" Json.text,
     .optional "diagnostics" (Json.items diagnostic),
     .optional "edit" workspaceEdit,
     .optional "command" command,
     .optional "isPreferred" Json.boolean,
     .optional "disabled" (Json.record "CodeActionDisabled" [.of "reason" Json.text]),
     .optional "data" Json.anything]

/-! ## Symbols -/

/-- A symbol of a hierarchy; its tags are read in the hierarchy's own way. -/
def hierarchyItem {α : Type} (name : String) (tags : Reader α) : Reader Unit :=
  Json.record name
    [.of "name" Json.text,
     .of "kind" Json.int32,
     .optional "tags" tags,
     .optional "detail" Json.text,
     .of "uri" Json.uri,
     .of "range" range,
     .of "selectionRange" range,
     .optional "data" Json.anything]

/-- A symbol that calls and is called. -/
def callItem : Reader Unit := hierarchyItem "CallHierarchyItem" (Json.items Json.int32)

/-- A type above and below others. It has one tag only. -/
def typeItem : Reader Unit := hierarchyItem "TypeHierarchyItem" Json.int32

def workspaceSymbol : Reader Unit :=
  Json.record "WorkspaceSymbol"
    [.of "name" Json.text,
     .of "kind" Json.int32,
     .optional "tags" (Json.items Json.int32),
     .optional "containerName" Json.text,
     .of "location"
       (Json.oneOf "OneOf"
         [location, Json.record "WorkspaceLocation" [.of "uri" Json.uri]]),
     .optional "data" Json.anything]

/-! ## What is shown with a text -/

def documentation : Reader Unit := markup "Documentation"

/-- The edit of a completion: one range, or one to insert into and one to replace. -/
def completionEdit : Reader Unit :=
  Json.oneOf "CompletionTextEdit"
    [textEdit,
     Json.record "InsertReplaceEdit"
       [.of "newText" Json.text, .of "insert" range, .of "replace" range]]

def completionItem : Reader Unit :=
  Json.record "CompletionItem"
    [.of "label" Json.text,
     .optional "labelDetails"
       (Json.record "CompletionItemLabelDetails"
         [.optional "detail" Json.text, .optional "description" Json.text]),
     .optional "kind" Json.int32,
     .optional "detail" Json.text,
     .optional "documentation" documentation,
     .optional "deprecated" Json.boolean,
     .optional "preselect" Json.boolean,
     .optional "sortText" Json.text,
     .optional "filterText" Json.text,
     .optional "insertText" Json.text,
     .optional "insertTextFormat" Json.int32,
     .optional "insertTextMode" Json.int32,
     .optional "textEdit" completionEdit,
     .optional "additionalTextEdits" (Json.items textEdit),
     .optional "command" command,
     .optional "commitCharacters" (Json.items Json.text),
     .optional "data" Json.anything,
     .optional "tags" (Json.items Json.int32)]

/-- A parameter by its text, or by the two ends of its text in that of its signature. -/
def parameterLabel : Reader Unit :=
  Json.oneOf "ParameterLabel" [Json.checked Json.text, offsets]
where
  offsets : Reader Unit
    | .array [a, b] => do
      let _ ← Json.nat32 a
      let _ ← Json.nat32 b
    | v => .error (.kind v "an array of length 2")

def signature : Reader Unit :=
  Json.record "SignatureInformation"
    [.of "label" Json.text,
     .optional "documentation" documentation,
     .optional "parameters"
       (Json.items (Json.record "ParameterInformation"
         [.of "label" parameterLabel, .optional "documentation" documentation])),
     .optional "activeParameter" Json.nat32]

def signatureHelp : Reader Unit :=
  Json.record "SignatureHelp"
    [.of "signatures" (Json.items signature),
     .optional "activeSignature" Json.nat32,
     .optional "activeParameter" Json.nat32]

/-- A hint's text, whole or in parts. -/
def hintLabel : Reader Unit :=
  Json.oneOf "InlayHintLabel"
    [Json.checked Json.text,
     Json.checked (Json.items (Json.record "InlayHintLabelPart"
       [.of "value" Json.text,
        .optional "tooltip" (markup "InlayHintLabelPartTooltip"),
        .optional "location" location,
        .optional "command" command]))]

def inlayHint : Reader Unit :=
  Json.record "InlayHint"
    [.of "position" position,
     .of "label" hintLabel,
     .optional "kind" Json.int32,
     .optional "textEdits" (Json.items textEdit),
     .optional "tooltip" (markup "InlayHintTooltip"),
     .optional "paddingLeft" Json.boolean,
     .optional "paddingRight" Json.boolean,
     .optional "data" Json.anything]

def documentLink : Reader Unit :=
  Json.record "DocumentLink"
    [.of "range" range,
     .optional "target" Json.uri,
     .optional "tooltip" Json.text,
     .optional "data" Json.anything]

def codeLens : Reader Unit :=
  Json.record "CodeLens"
    [.of "range" range, .optional "command" command, .optional "data" Json.anything]

end Nameplate.Server.Item
