/-
Shapes of the parts that messages of the protocol share: places in documents, documents, edits,
what is shown to a reader, and the tokens by which progress is told.
-/
import ClassAtlas.Json.Shape

namespace ClassAtlas.Protocol.Parts

open ClassAtlas.Json (Shape Need)
open ClassAtlas.Json.Shape (needs allows)

/-- A whole number of 32 bits without sign. -/
def unsigned : Shape := .whole .unsigned32

/-- A whole number of 32 bits with sign; kinds of things are told by such numbers. -/
def signed : Shape := .whole .signed32

/-- Some texts. -/
def texts : Shape := .list .text

/-- A field that may be missing or null, in an array also at its end. -/
def mayLack (name : String) (shape : Shape) : String × Need × Shape :=
  (name, .omissible, shape)

/-! ## Places -/

/-- A position in a document. -/
def position : Shape :=
  .record "Position" [needs "line" unsigned, needs "character" unsigned]

/-- A range of a document. -/
def range : Shape :=
  .record "Range" [needs "start" position, needs "end" position]

/-- A range of the document with a URI. -/
def location : Shape :=
  .record "Location" [needs "uri" .uri, needs "range" range]

/-- A document by its URI. -/
def documentId : Shape :=
  .record "TextDocumentIdentifier" [needs "uri" .uri]

/-- The field for a document. -/
def ofDocument : String × Need × Shape := needs "textDocument" documentId

/-- A position in the document with a URI. -/
def documentPosition : Shape :=
  .record "TextDocumentPositionParams" [ofDocument, needs "position" position]

/-! ## Progress -/

/-- A number or a text. -/
def numberOrText : Shape := .oneOf "NumberOrString" [signed, .text]

/-- The token by which progress is told. -/
def progress : Shape :=
  .record "WorkDoneProgressParams" [allows "workDoneToken" numberOrText]

/-- The token by which parts of a result are sent ahead. -/
def partialResult : Shape :=
  .record "PartialResultParams" [allows "partialResultToken" numberOrText]

/-! ## Words for a reader -/

/-- The kinds of marked-up text. -/
def markupKind : Shape := .choice ["plaintext", "markdown"]

/-- A marked-up text. -/
def markup : Shape :=
  .record "MarkupContent" [needs "kind" markupKind, needs "value" .text]

/-- A text, plain or marked up; the name is that of the place where it stands. -/
def plainOrMarkup (name : String) : Shape := .oneOf name [.text, markup]

/-- A text that documents something. -/
def documentation : Shape := plainOrMarkup "Documentation"

/-! ## Commands and edits -/

/-- A command for the editor. -/
def command : Shape :=
  .record "Command" [needs "title" .text, needs "command" .text, allows "arguments" (.list .any)]

/-- A new text for a range. -/
def textEdit : Shape :=
  .record "TextEdit" [needs "range" range, needs "newText" .text]

/-- A new text for a range, with a note. -/
def notedEdit : Shape :=
  .parted "AnnotatedTextEdit" [needs "annotationId" .text] [textEdit]

/-- Edits of a document of some version. -/
def documentEdit : Shape :=
  .record "TextDocumentEdit" [
    needs "textDocument" (.record "OptionalVersionedTextDocumentIdentifier" [
      needs "uri" .uri, allows "version" signed]),
    needs "edits" (.list (.oneOf "OneOf" [textEdit, notedEdit]))]

/-- Options that are switched on or off. -/
def switches (name : String) (names : List String) : Shape :=
  .record name (names.map fun n => allows n .bool)

/-- A change to the files of a workspace. -/
def fileOperation : Shape :=
  .oneOf "ResourceOp" [
    .parted "CreateFile" [
      needs "kind" (.choice ["create"]), needs "uri" .uri,
      allows "options" (switches "CreateFileOptions" ["overwrite", "ignoreIfExists"]),
      allows "annotationId" .text] [],
    .parted "RenameFile" [
      needs "kind" (.choice ["rename"]), needs "oldUri" .uri, needs "newUri" .uri,
      allows "options" (switches "RenameFileOptions" ["overwrite", "ignoreIfExists"]),
      allows "annotationId" .text] [],
    .parted "DeleteFile" [
      needs "kind" (.choice ["delete"]), needs "uri" .uri,
      allows "options" (.record "DeleteFileOptions" [
        allows "recursive" .bool, allows "ignoreIfNotExists" .bool,
        allows "annotationId" .text])] []]

/-- A note on edits, by which the editor can ask before it makes them. -/
def editNote : Shape :=
  .record "ChangeAnnotation" [
    needs "label" .text, allows "needsConfirmation" .bool, allows "description" .text]

/-- Edits of a workspace. -/
def workspaceEdit : Shape :=
  .record "WorkspaceEdit" [
    mayLack "changes" (.dictionary "map" .uri (.list textEdit)),
    allows "documentChanges" (.oneOf "DocumentChanges" [
      .list documentEdit,
      .list (.oneOf "DocumentChangeOperation" [fileOperation, documentEdit])]),
    allows "changeAnnotations" (.dictionary "a map" .text editNote)]

/-! ## Findings -/

/-- Something that is said about a range of a document. -/
def diagnostic : Shape :=
  .record "Diagnostic" [
    needs "range" range, allows "severity" signed, allows "code" numberOrText,
    allows "codeDescription" (.record "CodeDescription" [needs "href" .uri]),
    allows "source" .text, needs "message" .text,
    allows "relatedInformation" (.list (.record "DiagnosticRelatedInformation" [
      needs "location" location, needs "message" .text])),
    allows "tags" (.list signed), allows "data" .any]

end ClassAtlas.Protocol.Parts
