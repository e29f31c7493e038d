/-
Requests of the protocol that this server knows but does not serve, each with the shape of its
parameters: parameters of another shape are refused before the request itself is.
-/
import ClassAtlas.Protocol.Params

namespace ClassAtlas.Protocol.Unserved

open ClassAtlas.Json (Shape Need)
open ClassAtlas.Json.Shape (needs allows)
open ClassAtlas.Protocol.Parts

/-! ## Requests of one kind -/

/-- A request about a position in a document. -/
def atPosition (name : String) (parts : List Shape) : Shape :=
  .parted name [] (documentPosition :: parts)

/-- A request about a document, whose result can be sent in parts. -/
def aboutDocument (name : String) (more : List (String × Need × Shape)) : Shape :=
  .parted name (ofDocument :: more) [progress, partialResult]

/-- A request about an item that an earlier request gave. -/
def aboutItem (name : String) (item : Shape) : Shape :=
  .parted name [needs "item" item] [progress, partialResult]

/-- A request about files, each with some texts. -/
def aboutFiles (name item : String) (texts : List String) : Shape :=
  .record name [needs "files" (.list (.record item (texts.map fun t => needs t .text)))]

/-! ## Items -/

/-- The first fields of an item that stands for a symbol; tags have a shape of their own. -/
def symbolItem (name : String) (tags : Shape) : Shape :=
  .record name [
    needs "name" .text, needs "kind" signed, allows "tags" tags, allows "detail" .text,
    needs "uri" .uri, needs "range" range, needs "selectionRange" range, allows "data" .any]

/-- A caller or a callee. -/
def callItem : Shape := symbolItem "CallHierarchyItem" (.list signed)

/-- A type above or below another. -/
def typeItem : Shape := symbolItem "TypeHierarchyItem" signed

/-- A link in a document. -/
def documentLink : Shape :=
  .record "DocumentLink" [
    needs "range" range, allows "target" .uri, allows "tooltip" .text, allows "data" .any]

/-- A command that is shown with code. -/
def codeLens : Shape :=
  .record "CodeLens" [needs "range" range, allows "command" command, allows "data" .any]

/-- A hint that is shown within a line. -/
def inlayHint : Shape :=
  .record "InlayHint" [
    needs "position" position,
    needs "label" (.oneOf "InlayHintLabel" [.text, .list (.record "InlayHintLabelPart" [
      needs "value" .text, allows "tooltip" (plainOrMarkup "InlayHintLabelPartTooltip"),
      allows "location" location, allows "command" command])]),
    allows "kind" signed,
    allows "textEdits" (.list textEdit),
    allows "tooltip" (plainOrMarkup "InlayHintTooltip"),
    allows "paddingLeft" .bool,
    allows "paddingRight" .bool,
    allows "data" .any]

/-- An item that completes a text. -/
def completionItem : Shape :=
  .record "CompletionItem" [
    needs "label" .text,
    allows "labelDetails" (.record "CompletionItemLabelDetails" [
      allows "detail" .text, allows "description" .text]),
    allows "kind" signed,
    allows "detail" .text,
    allows "documentation" documentation,
    allows "deprecated" .bool,
    allows "preselect" .bool,
    allows "sortText" .text,
    allows "filterText" .text,
    allows "insertText" .text,
    allows "insertTextFormat" signed,
    allows "insertTextMode" signed,
    allows "textEdit" (.oneOf "CompletionTextEdit" [
      textEdit,
      .record "InsertReplaceEdit" [
        needs "newText" .text, needs "insert" range, needs "replace" range]]),
    allows "additionalTextEdits" (.list textEdit),
    allows "command" command,
    allows "commitCharacters" texts,
    allows "data" .any,
    allows "tags" (.list signed)]

/-- An action on code. -/
def codeAction : Shape :=
  .record "CodeAction" [
    needs "title" .text,
    allows "kind" .text,
    allows "diagnostics" (.list diagnostic),
    allows "edit" workspaceEdit,
    allows "command" command,
    allows "isPreferred" .bool,
    allows "disabled" (.record "CodeActionDisabled" [needs "reason" .text]),
    allows "data" .any]

/-- A symbol of the workspace. -/
def workspaceSymbol : Shape :=
  .record "WorkspaceSymbol" [
    needs "name" .text,
    needs "kind" signed,
    allows "tags" (.list signed),
    allows "containerName" .text,
    needs "location"
      (.oneOf "OneOf" [location, .record "WorkspaceLocation" [needs "uri" .uri]]),
    allows "data" .any]

/-! ## What a request tells of its occasion -/

/-- What a request to complete a text tells of its occasion. -/
def completionContext : Shape :=
  .record "CompletionContext" [needs "triggerKind" signed, allows "triggerCharacter" .text]

/-- Help with the parameters of a call, as it is shown already. -/
def shownHelp : Shape :=
  .record "SignatureHelp" [
    needs "signatures" (.list (.record "SignatureInformation" [
      needs "label" .text,
      allows "documentation" documentation,
      allows "parameters" (.list (.record "ParameterInformation" [
        needs "label" (.oneOf "ParameterLabel" [
          .text, .record "LabelOffsets" [needs "start" unsigned, needs "end" unsigned]]),
        allows "documentation" documentation])),
      allows "activeParameter" unsigned])),
    allows "activeSignature" unsigned,
    allows "activeParameter" unsigned]

/-- What a request for help with a call tells of its occasion. -/
def signatureHelpContext : Shape :=
  .record "SignatureHelpContext" [
    needs "triggerKind" signed,
    allows "triggerCharacter" .text,
    needs "isRetrigger" .bool,
    allows "activeSignatureHelp" shownHelp]

/-- What a request for actions on code tells of its occasion. -/
def codeActionContext : Shape :=
  .record "CodeActionContext" [
    needs "diagnostics" (.list diagnostic), allows "only" texts, allows "triggerKind" signed]

/-- How a document is to be laid out; options beyond the common ones have names of their own. -/
def layout : Shape :=
  .parted "FormattingOptions" [
    needs "tabSize" unsigned,
    needs "insertSpaces" .bool,
    allows "trimTrailingWhitespace" .bool,
    allows "insertFinalNewline" .bool,
    allows "trimFinalNewlines" .bool]
    [.dictionary "a map" .text (.oneOf "FormattingProperty" [.bool, signed, .text])]

/-- A colour. -/
def color : Shape :=
  .record "Color" [
    needs "red" .number, needs "green" .number, needs "blue" .number, needs "alpha" .number]

/-! ## The requests -/

/-- Requests that go from a position to other places. -/
def travels : List (String × Shape) := [
  ("textDocument/declaration", gotoShape),
  ("textDocument/typeDefinition", gotoShape),
  ("textDocument/implementation", gotoShape),
  ("textDocument/references",
    .parted "ReferenceParams" [
      needs "context" (.record "ReferenceContext" [needs "includeDeclaration" .bool])]
      [documentPosition, progress, partialResult]),
  ("textDocument/prepareCallHierarchy", atPosition "CallHierarchyPrepareParams" [progress]),
  ("callHierarchy/incomingCalls", aboutItem "CallHierarchyIncomingCallsParams" callItem),
  ("callHierarchy/outgoingCalls", aboutItem "CallHierarchyOutgoingCallsParams" callItem),
  ("textDocument/prepareTypeHierarchy", atPosition "TypeHierarchyPrepareParams" [progress]),
  ("typeHierarchy/supertypes", aboutItem "TypeHierarchySupertypesParams" typeItem),
  ("typeHierarchy/subtypes", aboutItem "TypeHierarchySubtypesParams" typeItem),
  ("textDocument/moniker", atPosition "MonikerParams" [progress, partialResult])]

/-- Requests for what can be shown in or beside a document. -/
def displays : List (String × Shape) := [
  ("textDocument/documentHighlight",
    atPosition "DocumentHighlightParams" [progress, partialResult]),
  ("textDocument/documentLink", aboutDocument "DocumentLinkParams" []),
  ("documentLink/resolve", documentLink),
  ("textDocument/hover", atPosition "HoverParams" [progress]),
  ("textDocument/codeLens", aboutDocument "CodeLensParams" []),
  ("codeLens/resolve", codeLens),
  ("textDocument/foldingRange", aboutDocument "FoldingRangeParams" []),
  ("textDocument/selectionRange",
    aboutDocument "SelectionRangeParams" [needs "positions" (.list position)]),
  ("textDocument/documentSymbol", aboutDocument "DocumentSymbolParams" []),
  ("textDocument/semanticTokens/full", aboutDocument "SemanticTokensParams" []),
  ("textDocument/semanticTokens/full/delta",
    aboutDocument "SemanticTokensDeltaParams" [needs "previousResultId" .text]),
  ("textDocument/semanticTokens/range",
    aboutDocument "SemanticTokensRangeParams" [needs "range" range]),
  ("textDocument/inlineValue",
    .parted "InlineValueParams" [
      ofDocument, needs "range" range,
      needs "context" (.record "InlineValueContext" [
        needs "frameId" signed, needs "stoppedLocation" range])] [progress]),
  ("textDocument/inlayHint",
    .parted "InlayHintParams" [ofDocument, needs "range" range] [progress]),
  ("inlayHint/resolve", inlayHint),
  ("textDocument/documentColor", aboutDocument "DocumentColorParams" []),
  ("textDocument/colorPresentation",
    aboutDocument "ColorPresentationParams" [needs "color" color, needs "range" range]),
  ("textDocument/diagnostic",
    aboutDocument "DocumentDiagnosticParams" [
      allows "identifier" .text, allows "previousResultId" .text])]

/-- Requests for help with writing a document. -/
def edits : List (String × Shape) := [
  ("textDocument/completion",
    .parted "CompletionParams" [allows "context" completionContext]
      [documentPosition, progress, partialResult]),
  ("completionItem/resolve", completionItem),
  ("textDocument/signatureHelp",
    .parted "SignatureHelpParams" [allows "context" signatureHelpContext]
      [documentPosition, progress]),
  ("textDocument/codeAction",
    aboutDocument "CodeActionParams" [needs "range" range, needs "context" codeActionContext]),
  ("codeAction/resolve", codeAction),
  ("textDocument/formatting",
    .parted "DocumentFormattingParams" [ofDocument, needs "options" layout] [progress]),
  ("textDocument/rangeFormatting",
    .parted "DocumentRangeFormattingParams"
      [ofDocument, needs "range" range, needs "options" layout] [progress]),
  ("textDocument/onTypeFormatting",
    .parted "DocumentOnTypeFormattingParams" [needs "ch" .text, needs "options" layout]
      [documentPosition]),
  ("textDocument/rename",
    .parted "RenameParams" [needs "newName" .text] [documentPosition, progress]),
  ("textDocument/prepareRename", documentPosition),
  ("textDocument/linkedEditingRange", atPosition "LinkedEditingRangeParams" [progress]),
  ("textDocument/willSaveWaitUntil",
    .record "WillSaveTextDocumentParams" [ofDocument, needs "reason" signed])]

/-- Requests about the workspace. -/
def overall : List (String × Shape) := [
  ("workspace/symbol",
    .parted "WorkspaceSymbolParams" [needs "query" .text] [partialResult, progress]),
  ("workspaceSymbol/resolve", workspaceSymbol),
  ("workspace/diagnostic",
    .parted "WorkspaceDiagnosticParams" [
      allows "identifier" .text,
      needs "previousResultIds" (.list (.record "PreviousResultId" [
        needs "uri" .uri, needs "value" .text]))] [progress, partialResult]),
  ("workspace/willCreateFiles", aboutFiles "CreateFilesParams" "FileCreate" ["uri"]),
  ("workspace/willRenameFiles", aboutFiles "RenameFilesParams" "FileRename" ["oldUri", "newUri"]),
  ("workspace/willDeleteFiles", aboutFiles "DeleteFilesParams" "FileDelete" ["uri"]),
  ("workspace/executeCommand",
    .parted "ExecuteCommandParams"
      [needs "command" .text, ("arguments", .defaulted, .list .any)] [progress])]

/-- All requests that are known and not served. -/
def all : List (String × Shape) := travels ++ displays ++ edits ++ overall

end ClassAtlas.Protocol.Unserved
