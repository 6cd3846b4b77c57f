import Nameplate.Server.Params.Basic

/-!
# What a client can do

A client says what it can do when it starts the server. The server looks at none of it, but what is
said has to be well formed.

* `Capabilities.workspace`, `Capabilities.textDocument`, `Capabilities.window`,
  `Capabilities.general`: the four groups;
* `capabilities`: all of them.
-/

namespace Nameplate.Server

open Json (Field Reader)

namespace Capabilities

/-! ## Common forms -/

/-- A record of truth values, each of which may be missing. -/
def flags (name : String) (fields : List String) : Reader Unit :=
  Json.record name (fields.map fun f => .optional f Json.boolean)

/-- Whether something can be registered while the server runs. -/
def registration : Reader Unit :=
  flags "DynamicRegistrationClientCapabilities" ["dynamicRegistration"]

/-- Whether the client can be asked to look again. -/
def refresh (name : String) : Reader Unit := flags name ["refreshSupport"]

/-- The properties that the client asks for later. -/
def resolve (name : String) : Reader Unit :=
  Json.record name [.of "properties" (Json.items Json.text)]

/-- Tags by their numbers. A truth value stands for none of them, or for support without any. -/
def tags : Reader Unit
  | .null => .ok ()
  | .bool _ => .ok ()
  | v => Json.record "TagSupport" [.of "valueSet" (Json.items Json.int32)] v

/-- Tags may be left out. -/
def tagField : Field := .of "tagSupport" tags .defaulted

/-- The kinds that a client knows, by their numbers. -/
def kinds (name : String) : Reader Unit :=
  Json.record name [.optional "valueSet" (Json.items Json.int32)]

def goto : Reader Unit := flags "GotoCapability" ["dynamicRegistration", "linkSupport"]

/-! ## Workspaces -/

def workspaceEdit : Reader Unit :=
  Json.record "WorkspaceEditClientCapabilities"
    [.optional "documentChanges" Json.boolean,
     .optional "resourceOperations" (Json.items (Json.word ["create", "rename", "delete"])),
     .optional "failureHandling"
       (Json.word ["abort", "transactional", "textOnlyTransactional", "undo"]),
     .optional "normalizesLineEndings" Json.boolean,
     .optional "changeAnnotationSupport"
       (flags "ChangeAnnotationWorkspaceEditClientCapabilities" ["groupsOnLabel"])]

def workspaceSymbol : Reader Unit :=
  Json.record "WorkspaceSymbolClientCapabilities"
    [.optional "dynamicRegistration" Json.boolean,
     .optional "symbolKind" (kinds "SymbolKindCapability"),
     tagField,
     .optional "resolveSupport" (resolve "WorkspaceSymbolResolveSupportCapability")]

def fileOperations : Reader Unit :=
  flags "WorkspaceFileOperationsClientCapabilities"
    ["dynamicRegistration", "didCreate", "willCreate", "didRename", "willRename", "didDelete",
     "willDelete"]

def workspace : Reader Unit :=
  Json.record "WorkspaceClientCapabilities"
    [.optional "applyEdit" Json.boolean,
     .optional "workspaceEdit" workspaceEdit,
     .optional "didChangeConfiguration" registration,
     .optional "didChangeWatchedFiles"
       (flags "DidChangeWatchedFilesClientCapabilities"
         ["dynamicRegistration", "relativePatternSupport"]),
     .optional "symbol" workspaceSymbol,
     .optional "executeCommand" registration,
     .optional "workspaceFolders" Json.boolean,
     .optional "configuration" Json.boolean,
     .optional "semanticTokens" (refresh "SemanticTokensWorkspaceClientCapabilities"),
     .optional "codeLens" (refresh "CodeLensWorkspaceClientCapabilities"),
     .optional "fileOperations" fileOperations,
     .optional "inlineValue" (refresh "InlineValueWorkspaceClientCapabilities"),
     .optional "inlayHint" (refresh "InlayHintWorkspaceClientCapabilities"),
     .optional "diagnostic" (refresh "DiagnosticWorkspaceClientCapabilities")]

/-! ## Documents -/

def completionItem : Reader Unit :=
  Json.record "CompletionItemCapability"
    [.optional "snippetSupport" Json.boolean,
     .optional "commitCharactersSupport" Json.boolean,
     .optional "documentationFormat" (Json.items markupKind),
     .optional "deprecatedSupport" Json.boolean,
     .optional "preselectSupport" Json.boolean,
     tagField,
     .optional "insertReplaceSupport" Json.boolean,
     .optional "resolveSupport" (resolve "CompletionItemCapabilityResolveSupport"),
     .optional "insertTextModeSupport"
       (Json.record "InsertTextModeSupport" [.of "valueSet" (Json.items Json.int32)]),
     .optional "labelDetailsSupport" Json.boolean]

def completion : Reader Unit :=
  Json.record "CompletionClientCapabilities"
    [.optional "dynamicRegistration" Json.boolean,
     .optional "completionItem" completionItem,
     .optional "completionItemKind" (kinds "CompletionItemKindCapability"),
     .optional "contextSupport" Json.boolean,
     .optional "insertTextMode" Json.int32,
     .optional "completionList"
       (Json.record "CompletionListCapability"
         [.optional "itemDefaults" (Json.items Json.text)])]

def hover : Reader Unit :=
  Json.record "HoverClientCapabilities"
    [.optional "dynamicRegistration" Json.boolean,
     .optional "contentFormat" (Json.items markupKind)]

def signatureInformation : Reader Unit :=
  Json.record "SignatureInformationSettings"
    [.optional "documentationFormat" (Json.items markupKind),
     .optional "parameterInformation"
       (flags "ParameterInformationSettings" ["labelOffsetSupport"]),
     .optional "activeParameterSupport" Json.boolean]

def signatureHelp : Reader Unit :=
  Json.record "SignatureHelpClientCapabilities"
    [.optional "dynamicRegistration" Json.boolean,
     .optional "signatureInformation" signatureInformation,
     .optional "contextSupport" Json.boolean]

def documentSymbol : Reader Unit :=
  Json.record "DocumentSymbolClientCapabilities"
    [.optional "dynamicRegistration" Json.boolean,
     .optional "symbolKind" (kinds "SymbolKindCapability"),
     .optional "hierarchicalDocumentSymbolSupport" Json.boolean,
     tagField]

def codeActionLiteral : Reader Unit :=
  Json.record "CodeActionLiteralSupport"
    [.of "codeActionKind"
      (Json.record "CodeActionKindLiteralSupport" [.of "valueSet" (Json.items Json.text)])]

def codeAction : Reader Unit :=
  Json.record "CodeActionClientCapabilities"
    [.optional "dynamicRegistration" Json.boolean,
     .optional "codeActionLiteralSupport" codeActionLiteral,
     .optional "isPreferredSupport" Json.boolean,
     .optional "disabledSupport" Json.boolean,
     .optional "dataSupport" Json.boolean,
     .optional "resolveSupport" (resolve "CodeActionCapabilityResolveSupport"),
     .optional "honorsChangeAnnotations" Json.boolean]

def rename : Reader Unit :=
  Json.record "RenameClientCapabilities"
    [.optional "dynamicRegistration" Json.boolean,
     .optional "prepareSupport" Json.boolean,
     .optional "prepareSupportDefaultBehavior" Json.int32,
     .optional "honorsChangeAnnotations" Json.boolean]

def publishDiagnostics : Reader Unit :=
  Json.record "PublishDiagnosticsClientCapabilities"
    [.optional "relatedInformation" Json.boolean,
     tagField,
     .optional "versionSupport" Json.boolean,
     .optional "codeDescriptionSupport" Json.boolean,
     .optional "dataSupport" Json.boolean]

def foldingRange : Reader Unit :=
  Json.record "FoldingRangeClientCapabilities"
    [.optional "dynamicRegistration" Json.boolean,
     .optional "rangeLimit" Json.nat32,
     .optional "lineFoldingOnly" Json.boolean,
     .optional "foldingRangeKind"
       (Json.record "FoldingRangeKindCapability"
         [.optional "valueSet" (Json.items (Json.word ["comment", "imports", "region"]))]),
     .optional "foldingRange" (flags "FoldingRangeCapability" ["collapsedText"])]

/-- All tokens at once, or also what changes between two answers. -/
def fullTokens : Reader Unit :=
  Json.oneOf "SemanticTokensFullOptions"
    [Json.checked Json.boolean, Json.keyedRecord "Delta" [.optional "delta" Json.boolean] []]

def semanticTokens : Reader Unit :=
  Json.record "SemanticTokensClientCapabilities"
    [.optional "dynamicRegistration" Json.boolean,
     .of "requests"
       (Json.record "SemanticTokensClientCapabilitiesRequests"
         [.optional "range" Json.boolean, .optional "full" fullTokens]),
     .of "tokenTypes" (Json.items Json.text),
     .of "tokenModifiers" (Json.items Json.text),
     .of "formats" (Json.items Json.text),
     .optional "overlappingTokenSupport" Json.boolean,
     .optional "multilineTokenSupport" Json.boolean,
     .optional "serverCancelSupport" Json.boolean,
     .optional "augmentsSyntaxTokens" Json.boolean]

def inlayHint : Reader Unit :=
  Json.record "InlayHintClientCapabilities"
    [.optional "dynamicRegistration" Json.boolean,
     .optional "resolveSupport" (resolve "InlayHintResolveClientCapabilities")]

def textDocument : Reader Unit :=
  Json.record "TextDocumentClientCapabilities"
    [.optional "synchronization"
       (flags "TextDocumentSyncClientCapabilities"
         ["dynamicRegistration", "willSave", "willSaveWaitUntil", "didSave"]),
     .optional "completion" completion,
     .optional "hover" hover,
     .optional "signatureHelp" signatureHelp,
     .optional "references" registration,
     .optional "documentHighlight" registration,
     .optional "documentSymbol" documentSymbol,
     .optional "formatting" registration,
     .optional "rangeFormatting" registration,
     .optional "onTypeFormatting" registration,
     .optional "declaration" goto,
     .optional "definition" goto,
     .optional "typeDefinition" goto,
     .optional "implementation" goto,
     .optional "codeAction" codeAction,
     .optional "codeLens" registration,
     .optional "documentLink"
       (flags "DocumentLinkClientCapabilities" ["dynamicRegistration", "tooltipSupport"]),
     .optional "colorProvider" registration,
     .optional "rename" rename,
     .optional "publishDiagnostics" publishDiagnostics,
     .optional "foldingRange" foldingRange,
     .optional "selectionRange"
       (flags "SelectionRangeClientCapabilities" ["dynamicRegistration"]),
     .optional "linkedEditingRange" registration,
     .optional "callHierarchy" registration,
     .optional "semanticTokens" semanticTokens,
     .optional "moniker" registration,
     .optional "typeHierarchy" registration,
     .optional "inlineValue" registration,
     .optional "inlayHint" inlayHint,
     .optional "diagnostic"
       (flags "DiagnosticClientCapabilities"
         ["dynamicRegistration", "relatedDocumentSupport"])]

/-! ## Windows and all else -/

def window : Reader Unit :=
  Json.record "WindowClientCapabilities"
    [.optional "workDoneProgress" Json.boolean,
     .optional "showMessage"
       (Json.record "ShowMessageRequestClientCapabilities"
         [.optional "messageActionItem"
           (flags "MessageActionItemCapabilities" ["additionalPropertiesSupport"])]),
     .optional "showDocument"
       (Json.record "ShowDocumentClientCapabilities" [.of "support" Json.boolean])]

def general : Reader Unit :=
  Json.record "GeneralClientCapabilities"
    [.optional "regularExpressions"
       (Json.record "RegularExpressionsClientCapabilities"
         [.of "engine" Json.text, .optional "version" Json.text]),
     .optional "markdown"
       (Json.record "MarkdownClientCapabilities"
         [.of "parser" Json.text, .optional "version" Json.text,
          .optional "allowedTags" (Json.items Json.text)]),
     .optional "staleRequestSupport"
       (Json.record "StaleRequestSupportClientCapabilities"
         [.of "cancel" Json.boolean, .of "retryOnContentModified" (Json.items Json.text)]),
     .optional "positionEncodings" (Json.items Json.text)]

end Capabilities

/-- What a client can do. -/
def capabilities : Reader Unit :=
  Json.record "ClientCapabilities"
    [.optional "workspace" Capabilities.workspace,
     .optional "textDocument" Capabilities.textDocument,
     .optional "window" Capabilities.window,
     .optional "general" Capabilities.general,
     .optional "experimental" Json.anything]

end Nameplate.Server
