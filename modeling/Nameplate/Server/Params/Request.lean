import Nameplate.Server.Params.Item

/-!
# Requests that are not answered

The server knows all requests of the protocol and answers a few. It refuses the others, each one
only after it has checked its parameters.

* `Request.params?`: what the parameters of such a request have to look like.
-/

namespace Nameplate.Server.Request

open Json (Field Reader)

/-! ## Common forms -/

/-- Parameters of a request with a position in a document. -/
def atPosition (name : String) (parts : List (List Field)) : Reader Unit :=
  Json.keyedRecord name [] (Part.position :: parts)

/-- Parameters of a request about a document, with other fields. -/
def ofDocument (name : String) (fields : List Field) (parts : List (List Field)) : Reader Unit :=
  Json.keyedRecord name (.of "textDocument" document :: fields) parts

/-- Parameters of a request about a document as a whole. -/
def ofWhole (name : String) : Reader Unit := ofDocument name [] [Part.progress, Part.partialResult]

/-- Parameters of a request about a symbol of a hierarchy. -/
def ofItem (name : String) (item : Reader Unit) : Reader Unit :=
  Json.keyedRecord name [.of "item" item] [Part.progress, Part.partialResult]

/-- Parameters of a request about files. -/
def ofFiles (name file : String) (fields : List String) : Reader Unit :=
  Json.record name
    [.of "files" (Json.items (Json.record file (fields.map fun f => .of f Json.text)))]

/-! ## Single requests -/

def willSave : Reader Unit :=
  Json.record "WillSaveTextDocumentParams"
    [.of "textDocument" document, .of "reason" Json.int32]

/-- A request for a place that a symbol leads to. -/
def goto : Reader Unit := atPosition "GotoDefinitionParams" [Part.progress, Part.partialResult]

def references : Reader Unit :=
  Json.keyedRecord "ReferenceParams"
    [.of "context" (Json.record "ReferenceContext" [.of "includeDeclaration" Json.boolean])]
    [Part.position, Part.progress, Part.partialResult]

def inlineValue : Reader Unit :=
  ofDocument "InlineValueParams"
    [.of "range" range,
     .of "context"
       (Json.record "InlineValueContext"
         [.of "frameId" Json.int32, .of "stoppedLocation" range])]
    [Part.progress]

def completion : Reader Unit :=
  Json.keyedRecord "CompletionParams"
    [.optional "context"
      (Json.record "CompletionContext"
        [.of "triggerKind" Json.int32, .optional "triggerCharacter" Json.text])]
    [Part.position, Part.progress, Part.partialResult]

def workspaceDiagnostic : Reader Unit :=
  Json.keyedRecord "WorkspaceDiagnosticParams"
    [.optional "identifier" Json.text,
     .of "previousResultIds"
       (Json.items (Json.record "PreviousResultId" [.of "uri" Json.uri, .of "value" Json.text]))]
    [Part.progress, Part.partialResult]

def signatureHelp : Reader Unit :=
  Json.keyedRecord "SignatureHelpParams"
    [.optional "context"
      (Json.record "SignatureHelpContext"
        [.of "triggerKind" Json.int32,
         .optional "triggerCharacter" Json.text,
         .of "isRetrigger" Json.boolean,
         .optional "activeSignatureHelp" Item.signatureHelp])]
    [Part.position, Part.progress]

def codeAction : Reader Unit :=
  ofDocument "CodeActionParams"
    [.of "range" range,
     .of "context"
       (Json.record "CodeActionContext"
         [.of "diagnostics" (Json.items Item.diagnostic),
          .optional "only" (Json.items Json.text),
          .optional "triggerKind" Json.int32])]
    [Part.progress, Part.partialResult]

def colorPresentation : Reader Unit :=
  ofDocument "ColorPresentationParams"
    [.of "color"
       (Json.record "Color"
         [.of "red" Json.real, .of "green" Json.real, .of "blue" Json.real,
          .of "alpha" Json.real]),
     .of "range" range]
    [Part.progress, Part.partialResult]

/-- How a text is laid out. Members that are not known are options of the client's own. -/
def formattingOptions : Reader Unit := fun v => do
  let known : List Field :=
    [.of "tabSize" Json.nat32,
     .of "insertSpaces" Json.boolean,
     .optional "trimTrailingWhitespace" Json.boolean,
     .optional "insertFinalNewline" Json.boolean,
     .optional "trimFinalNewlines" Json.boolean]
  let ms ← Json.keyedMembers "FormattingOptions" known [] v
  let others := ms.filter fun m => !known.any fun f => f.name == m.1
  others.forM fun m => property m.2
where
  property : Reader Unit :=
    Json.oneOf "FormattingProperty"
      [Json.checked Json.boolean, Json.checked Json.int32, Json.checked Json.text]

def onTypeFormatting : Reader Unit :=
  Json.keyedRecord "DocumentOnTypeFormattingParams"
    [.of "ch" Json.text, .of "options" formattingOptions] [Part.position]

/-! ## All of them -/

/-- The requests that are not answered, with their parameters. -/
def all : List (String × Reader Unit) :=
  [("textDocument/willSaveWaitUntil", willSave),
   ("textDocument/declaration", goto),
   ("textDocument/definition", goto),
   ("textDocument/typeDefinition", goto),
   ("textDocument/implementation", goto),
   ("textDocument/references", references),
   ("textDocument/prepareCallHierarchy",
     atPosition "CallHierarchyPrepareParams" [Part.progress]),
   ("callHierarchy/incomingCalls", ofItem "CallHierarchyIncomingCallsParams" Item.callItem),
   ("callHierarchy/outgoingCalls", ofItem "CallHierarchyOutgoingCallsParams" Item.callItem),
   ("textDocument/prepareTypeHierarchy",
     atPosition "TypeHierarchyPrepareParams" [Part.progress]),
   ("typeHierarchy/supertypes", ofItem "TypeHierarchySupertypesParams" Item.typeItem),
   ("typeHierarchy/subtypes", ofItem "TypeHierarchySubtypesParams" Item.typeItem),
   ("textDocument/documentHighlight",
     atPosition "DocumentHighlightParams" [Part.progress, Part.partialResult]),
   ("textDocument/documentLink", ofWhole "DocumentLinkParams"),
   ("documentLink/resolve", Item.documentLink),
   ("textDocument/hover", atPosition "HoverParams" [Part.progress]),
   ("codeLens/resolve", Item.codeLens),
   ("textDocument/foldingRange", ofWhole "FoldingRangeParams"),
   ("textDocument/selectionRange",
     ofDocument "SelectionRangeParams" [.of "positions" (Json.items position)]
       [Part.progress, Part.partialResult]),
   ("textDocument/documentSymbol", ofWhole "DocumentSymbolParams"),
   ("textDocument/semanticTokens/full", ofWhole "SemanticTokensParams"),
   ("textDocument/semanticTokens/full/delta",
     ofDocument "SemanticTokensDeltaParams" [.of "previousResultId" Json.text]
       [Part.progress, Part.partialResult]),
   ("textDocument/semanticTokens/range",
     ofDocument "SemanticTokensRangeParams" [.of "range" range]
       [Part.progress, Part.partialResult]),
   ("textDocument/inlineValue", inlineValue),
   ("textDocument/inlayHint",
     ofDocument "InlayHintParams" [.of "range" range] [Part.progress]),
   ("inlayHint/resolve", Item.inlayHint),
   ("textDocument/moniker", atPosition "MonikerParams" [Part.progress, Part.partialResult]),
   ("textDocument/completion", completion),
   ("completionItem/resolve", Item.completionItem),
   ("textDocument/diagnostic",
     ofDocument "DocumentDiagnosticParams"
       [.optional "identifier" Json.text, .optional "previousResultId" Json.text]
       [Part.progress, Part.partialResult]),
   ("workspace/diagnostic", workspaceDiagnostic),
   ("textDocument/signatureHelp", signatureHelp),
   ("textDocument/codeAction", codeAction),
   ("codeAction/resolve", Item.codeAction),
   ("textDocument/documentColor", ofWhole "DocumentColorParams"),
   ("textDocument/colorPresentation", colorPresentation),
   ("textDocument/formatting",
     ofDocument "DocumentFormattingParams" [.of "options" formattingOptions] [Part.progress]),
   ("textDocument/rangeFormatting",
     ofDocument "DocumentRangeFormattingParams"
       [.of "range" range, .of "options" formattingOptions] [Part.progress]),
   ("textDocument/onTypeFormatting", onTypeFormatting),
   ("textDocument/rename",
     Json.keyedRecord "RenameParams" [.of "newName" Json.text] [Part.position, Part.progress]),
   ("textDocument/prepareRename",
     Json.record "TextDocumentPositionParams" Part.position),
   ("textDocument/linkedEditingRange", atPosition "LinkedEditingRangeParams" [Part.progress]),
   ("workspace/symbol",
     Json.keyedRecord "WorkspaceSymbolParams" [.of "query" Json.text]
       [Part.partialResult, Part.progress]),
   ("workspaceSymbol/resolve", Item.workspaceSymbol),
   ("workspace/willCreateFiles", ofFiles "CreateFilesParams" "FileCreate" ["uri"]),
   ("workspace/willRenameFiles", ofFiles "RenameFilesParams" "FileRename" ["oldUri", "newUri"]),
   ("workspace/willDeleteFiles", ofFiles "DeleteFilesParams" "FileDelete" ["uri"])]

/-- The parameters of a request that is not answered. -/
def params? (method : String) : Option (Reader Unit) :=
  (all.find? fun r => r.1 == method).map Prod.snd

end Nameplate.Server.Request
