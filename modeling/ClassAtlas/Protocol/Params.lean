/-
The parameters of the messages that this server takes: their shapes, and what is taken from them.
Whatever has the shape is taken; the rest of a message is of no concern, but must be of its shape.
-/
import ClassAtlas.Protocol.Abilities
import ClassAtlas.Session

namespace ClassAtlas.Protocol

open ClassAtlas.Json (Mismatch Shape)
open ClassAtlas.Json.Shape (needs allows)
open ClassAtlas.Protocol.Parts

/-! ## Taking parts of a value -/

/-- Takes a field that has to be there. -/
def required {α : Type} (take : Json → Except Mismatch α) (v : Json) (name : String) :
    Except Mismatch α :=
  match v.field? name with
  | none => .error (.missing name)
  | some w => take w

/-- Takes a field that may be absent. -/
def optional {α : Type} (take : Json → Except Mismatch α) (v : Json) (name : String) :
    Except Mismatch (Option α) :=
  match v.present? name with
  | none => .ok none
  | some w => (take w).map some

/-- Takes the items of an array. -/
def listOf {α : Type} (take : Json → Except Mismatch α) : Json → Except Mismatch (List α)
  | .array items => items.mapM take
  | v => .error (.unexpected v "a sequence")

/-- Takes a text. -/
def textOf : Json → Except Mismatch String
  | .text s => .ok s
  | v => .error (.unexpected v "a string")

/-- Takes a whole number without sign. -/
def countOf (v : Json) : Except Mismatch Nat := do
  match ← unsigned.read v with
  | .whole n => return n.toNat
  | w => .error (.unexpected w Json.Width.unsigned32.name)

/-- Takes a URI. -/
def uriOf : Json → Except Mismatch Uri
  | .text s => (Uri.parse s).mapError fun cause => .uri cause s
  | v => .error (.unexpected v "a string representing an URL")

/-- Takes a position. -/
def positionOf (v : Json) : Except Mismatch Position := do
  return ⟨← required countOf v "line", ← required countOf v "character"⟩

/-- Takes the URI of the document that a message is about. -/
def documentOf (v : Json) : Except Mismatch Uri :=
  required (required uriOf · "uri") v "textDocument"

/-! ## Greeting -/

/-- The shape of a greeting. -/
def greetingShape : Shape :=
  .record "InitializeParams" [
    allows "processId" unsigned,
    allows "rootPath" .text,
    mayLack "rootUri" .uri,
    allows "initializationOptions" .any,
    needs "capabilities" Abilities.all,
    mayLack "trace" (.choice ["off", "messages", "verbose"]),
    allows "workspaceFolders"
      (.list (.record "WorkspaceFolder" [needs "uri" .uri, needs "name" .text])),
    allows "clientInfo" (.record "ClientInfo" [needs "name" .text, allows "version" .text]),
    allows "locale" .text]

/-- Reads a greeting. -/
def greetingOf (params : Json) : Except Mismatch Session.Greeting := do
  let v ← greetingShape.read params
  let root ← optional uriOf v "rootUri"
  let folders ← optional (listOf (required uriOf · "uri")) v "workspaceFolders"
  return ⟨root, folders.getD [], v.present? "initializationOptions"⟩

/-- The shape of the word that the greeting is over. -/
def greetedShape : Shape := .record "InitializedParams" []

/-- Reads the word that the greeting is over. -/
def greetedOf (params : Json) : Except Mismatch Unit := do
  let _ ← greetedShape.read params

/-! ## Documents -/

/-- The shape of the word that a document was opened. -/
def openedShape : Shape :=
  .record "DidOpenTextDocumentParams" [
    needs "textDocument" (.record "TextDocumentItem" [
      needs "uri" .uri, needs "languageId" .text, needs "version" signed, needs "text" .text])]

/-- Reads the word that a document was opened. -/
def openedOf (params : Json) : Except Mismatch (Uri × Document) := do
  let v ← openedShape.read params
  let document (d : Json) : Except Mismatch Document := do
    return ⟨← required textOf d "languageId", ← required textOf d "text"⟩
  return (← documentOf v, ← required document v "textDocument")

/-- The shape of the word that a document was changed. A change is a new text, perhaps for a range
only. -/
def changedShape : Shape :=
  .record "DidChangeTextDocumentParams" [
    needs "textDocument" (.record "VersionedTextDocumentIdentifier" [
      needs "uri" .uri, needs "version" signed]),
    needs "contentChanges" (.list (.record "TextDocumentContentChangeEvent" [
      allows "range" range, allows "rangeLength" unsigned, needs "text" .text]))]

/-- Reads the word that a document was changed: the texts of its changes. -/
def changedOf (params : Json) : Except Mismatch (Uri × List String) := do
  let v ← changedShape.read params
  return (← documentOf v, ← required (listOf (required textOf · "text")) v "contentChanges")

/-- The shape of the word that a document was closed. -/
def closedShape : Shape := .record "DidCloseTextDocumentParams" [ofDocument]

/-- Reads the word that a document was closed. -/
def closedOf (params : Json) : Except Mismatch Uri := do
  documentOf (← closedShape.read params)

/-! ## Definitions -/

/-- The shape of a request to go from a position to another place. -/
def gotoShape : Shape :=
  .parted "GotoDefinitionParams" [] [documentPosition, progress, partialResult]

/-- Reads a request for a definition. -/
def askedOf (params : Json) : Except Mismatch (Uri × Position) := do
  let v ← gotoShape.read params
  return (← documentOf v, ← required positionOf v "position")

end ClassAtlas.Protocol
