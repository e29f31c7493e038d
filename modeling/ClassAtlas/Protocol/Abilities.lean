/-
The shape in which an editor tells what it can do. Nearly everything in it may be left out, and the
server makes use of none of it, but what is there has to be of its shape.
-/
import ClassAtlas.Protocol.Parts

namespace ClassAtlas.Protocol.Abilities

open ClassAtlas.Json (Shape Need)
open ClassAtlas.Json.Shape (needs allows)
open ClassAtlas.Protocol.Parts

/-! ## Abilities of one kind -/

/-- Whether an ability can be registered later; the first thing that is told of most of them. -/
def registration : String × Need × Shape := allows "dynamicRegistration" .bool

/-- An ability of which nothing else is told. -/
def registered : Shape := .record "DynamicRegistrationClientCapabilities" [registration]

/-- An ability of which is told only whether what it shows can be asked for again. -/
def refreshed (name : String) : Shape := switches name ["refreshSupport"]

/-- The properties that can be asked for later. -/
def properties (name : String) : Shape := .record name [needs "properties" texts]

/-- The kinds of things that are understood. -/
def kinds (name : String) (kind : Shape) : Shape :=
  .record name [allows "valueSet" (.list kind)]

/-- The tags that are understood, or only whether tags are. -/
def tags : String × Need × Shape :=
  mayLack "tagSupport" (.boolOr (.record "TagSupport" [needs "valueSet" (.list signed)]))

/-- The kinds of symbols that are understood. -/
def symbolKinds : String × Need × Shape :=
  allows "symbolKind" (kinds "SymbolKindCapability" signed)

/-! ## Workspace -/

/-- Edits of a workspace. -/
def workspaceEdits : Shape :=
  .record "WorkspaceEditClientCapabilities" [
    allows "documentChanges" .bool,
    allows "resourceOperations" (.list (.choice ["create", "rename", "delete"])),
    allows "failureHandling"
      (.choice ["abort", "transactional", "textOnlyTransactional", "undo"]),
    allows "normalizesLineEndings" .bool,
    allows "changeAnnotationSupport"
      (switches "ChangeAnnotationWorkspaceEditClientCapabilities" ["groupsOnLabel"])]

/-- The workspace as a whole. -/
def workspace : Shape :=
  .record "WorkspaceClientCapabilities" [
    allows "applyEdit" .bool,
    allows "workspaceEdit" workspaceEdits,
    allows "didChangeConfiguration" registered,
    allows "didChangeWatchedFiles" (switches "DidChangeWatchedFilesClientCapabilities"
      ["dynamicRegistration", "relativePatternSupport"]),
    allows "symbol" (.record "WorkspaceSymbolClientCapabilities" [
      registration, symbolKinds, tags,
      allows "resolveSupport" (properties "WorkspaceSymbolResolveSupportCapability")]),
    allows "executeCommand" registered,
    allows "workspaceFolders" .bool,
    allows "configuration" .bool,
    allows "semanticTokens" (refreshed "SemanticTokensWorkspaceClientCapabilities"),
    allows "codeLens" (refreshed "CodeLensWorkspaceClientCapabilities"),
    allows "fileOperations" (switches "WorkspaceFileOperationsClientCapabilities"
      ["dynamicRegistration", "didCreate", "willCreate", "didRename", "willRename",
        "didDelete", "willDelete"]),
    allows "inlineValue" (refreshed "InlineValueWorkspaceClientCapabilities"),
    allows "inlayHint" (refreshed "InlayHintWorkspaceClientCapabilities"),
    allows "diagnostic" (refreshed "DiagnosticWorkspaceClientCapabilities")]

/-! ## Documents -/

/-- Going from a name to a place. -/
def goto : Shape := switches "GotoCapability" ["dynamicRegistration", "linkSupport"]

/-- An item that completes a text. -/
def completionItem : Shape :=
  .record "CompletionItemCapability" [
    allows "snippetSupport" .bool,
    allows "commitCharactersSupport" .bool,
    allows "documentationFormat" (.list markupKind),
    allows "deprecatedSupport" .bool,
    allows "preselectSupport" .bool,
    tags,
    allows "insertReplaceSupport" .bool,
    allows "resolveSupport" (properties "CompletionItemCapabilityResolveSupport"),
    allows "insertTextModeSupport"
      (.record "InsertTextModeSupport" [needs "valueSet" (.list signed)]),
    allows "labelDetailsSupport" .bool]

/-- Completing a text. -/
def completion : Shape :=
  .record "CompletionClientCapabilities" [
    registration,
    allows "completionItem" completionItem,
    allows "completionItemKind" (kinds "CompletionItemKindCapability" signed),
    allows "contextSupport" .bool,
    allows "insertTextMode" signed,
    allows "completionList" (.record "CompletionListCapability" [allows "itemDefaults" texts])]

/-- Help with the parameters of a call. -/
def signatureHelp : Shape :=
  .record "SignatureHelpClientCapabilities" [
    registration,
    allows "signatureInformation" (.record "SignatureInformationSettings" [
      allows "documentationFormat" (.list markupKind),
      allows "parameterInformation"
        (switches "ParameterInformationSettings" ["labelOffsetSupport"]),
      allows "activeParameterSupport" .bool]),
    allows "contextSupport" .bool]

/-- Actions on code. -/
def codeAction : Shape :=
  .record "CodeActionClientCapabilities" [
    registration,
    allows "codeActionLiteralSupport" (.record "CodeActionLiteralSupport" [
      needs "codeActionKind"
        (.record "CodeActionKindLiteralSupport" [needs "valueSet" texts])]),
    allows "isPreferredSupport" .bool,
    allows "disabledSupport" .bool,
    allows "dataSupport" .bool,
    allows "resolveSupport" (properties "CodeActionCapabilityResolveSupport"),
    allows "honorsChangeAnnotations" .bool]

/-- Tokens with a meaning. -/
def semanticTokens : Shape :=
  .record "SemanticTokensClientCapabilities" [
    registration,
    needs "requests" (.record "SemanticTokensClientCapabilitiesRequests" [
      allows "range" .bool,
      allows "full" (.oneOf "SemanticTokensFullOptions" [
        .bool, .parted "SemanticTokensFullOptions" [allows "delta" .bool] []])]),
    needs "tokenTypes" texts,
    needs "tokenModifiers" texts,
    needs "formats" (.list (.choice ["relative"])),
    allows "overlappingTokenSupport" .bool,
    allows "multilineTokenSupport" .bool,
    allows "serverCancelSupport" .bool,
    allows "augmentsSyntaxTokens" .bool]

/-- Ranges that can be folded. -/
def foldingRange : Shape :=
  .record "FoldingRangeClientCapabilities" [
    registration,
    allows "rangeLimit" unsigned,
    allows "lineFoldingOnly" .bool,
    allows "foldingRangeKind"
      (kinds "FoldingRangeKindCapability" (.choice ["comment", "imports", "region"])),
    allows "foldingRange" (switches "FoldingRangeCapability" ["collapsedText"])]

/-- What is said about documents. -/
def diagnostics : Shape :=
  .record "PublishDiagnosticsClientCapabilities" [
    allows "relatedInformation" .bool,
    tags,
    allows "versionSupport" .bool,
    allows "codeDescriptionSupport" .bool,
    allows "dataSupport" .bool]

/-- Documents. -/
def textDocument : Shape :=
  .record "TextDocumentClientCapabilities" [
    allows "synchronization" (switches "TextDocumentSyncClientCapabilities"
      ["dynamicRegistration", "willSave", "willSaveWaitUntil", "didSave"]),
    allows "completion" completion,
    allows "hover" (.record "HoverClientCapabilities" [
      registration, allows "contentFormat" (.list markupKind)]),
    allows "signatureHelp" signatureHelp,
    allows "references" registered,
    allows "documentHighlight" registered,
    allows "documentSymbol" (.record "DocumentSymbolClientCapabilities" [
      registration, symbolKinds, allows "hierarchicalDocumentSymbolSupport" .bool, tags]),
    allows "formatting" registered,
    allows "rangeFormatting" registered,
    allows "onTypeFormatting" registered,
    allows "declaration" goto,
    allows "definition" goto,
    allows "typeDefinition" goto,
    allows "implementation" goto,
    allows "codeAction" codeAction,
    allows "codeLens" registered,
    allows "documentLink"
      (switches "DocumentLinkClientCapabilities" ["dynamicRegistration", "tooltipSupport"]),
    allows "colorProvider" registered,
    allows "rename" (.record "RenameClientCapabilities" [
      registration, allows "prepareSupport" .bool,
      allows "prepareSupportDefaultBehavior" signed,
      allows "honorsChangeAnnotations" .bool]),
    allows "publishDiagnostics" diagnostics,
    allows "foldingRange" foldingRange,
    allows "selectionRange" (.record "SelectionRangeClientCapabilities" [registration]),
    allows "linkedEditingRange" registered,
    allows "callHierarchy" registered,
    allows "semanticTokens" semanticTokens,
    allows "moniker" registered,
    allows "typeHierarchy" registered,
    allows "inlineValue" registered,
    allows "inlayHint" (.record "InlayHintClientCapabilities" [
      registration, allows "resolveSupport" (properties "InlayHintResolveClientCapabilities")]),
    allows "diagnostic"
      (switches "DiagnosticClientCapabilities"
        ["dynamicRegistration", "relatedDocumentSupport"])]

/-! ## All else -/

/-- Documents made of cells. -/
def notebookDocument : Shape :=
  .record "NotebookDocumentClientCapabilities" [
    needs "synchronization" (switches "NotebookDocumentSyncClientCapabilities"
      ["dynamicRegistration", "executionSummaryReport"])]

/-- The window. -/
def window : Shape :=
  .record "WindowClientCapabilities" [
    allows "workDoneProgress" .bool,
    allows "showMessage" (.record "ShowMessageRequestClientCapabilities" [
      allows "messageActionItem"
        (switches "MessageActionItemCapabilities" ["additionalPropertiesSupport"])]),
    allows "showDocument" (.record "ShowDocumentClientCapabilities" [needs "support" .bool])]

/-- Abilities of no kind. -/
def general : Shape :=
  .record "GeneralClientCapabilities" [
    allows "regularExpressions" (.record "RegularExpressionsClientCapabilities" [
      needs "engine" .text, allows "version" .text]),
    allows "markdown" (.record "MarkdownClientCapabilities" [
      needs "parser" .text, allows "version" .text, allows "allowedTags" texts]),
    allows "staleRequestSupport" (.record "StaleRequestSupportClientCapabilities" [
      needs "cancel" .bool, needs "retryOnContentModified" texts]),
    allows "positionEncodings" texts]

/-- All that an editor can do. -/
def all : Shape :=
  .record "ClientCapabilities" [
    allows "workspace" workspace,
    allows "textDocument" textDocument,
    allows "notebookDocument" notebookDocument,
    allows "window" window,
    allows "general" general,
    allows "offsetEncoding" texts,
    allows "experimental" .any]

end ClassAtlas.Protocol.Abilities
