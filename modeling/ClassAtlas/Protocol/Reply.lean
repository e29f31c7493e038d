/-
What the server says, as JSON: its abilities, the place of a declaration, notices, and the answer to
a request or its refusal.
-/
import ClassAtlas.Protocol.Message
import ClassAtlas.Protocol.Refusal
import ClassAtlas.Session

namespace ClassAtlas.Protocol

/-- The name of the server. -/
def serverName : String := "tachyons-lsp"

/-- What the server can do: definitions, from documents that are sent as a whole. -/
def abilities : Json :=
  .object [
    ("capabilities", .object [("textDocumentSync", .whole 1), ("definitionProvider", .bool true)]),
    ("serverInfo", .object [("name", .text serverName), ("version", .text BuiltIn.version)])]

/-- A position. -/
def positionJson (p : Position) : Json :=
  .object [("line", .whole p.line), ("character", .whole p.column)]

/-- The place of a declaration. -/
def declarationJson (d : Declaration) : Json :=
  .object [
    ("uri", .text d.uri.text),
    ("range", .object [("start", positionJson d.span.start), ("end", positionJson d.span.stop)])]

/-! ## Messages that go out -/

/-- A message with some fields besides the version. -/
def messageWith (fields : List (String × Json)) : Json :=
  .object (("jsonrpc", .text version) :: fields)

/-- The answer to a request. -/
def answerMessage (id : Id) (result : Json) : Json :=
  messageWith [("result", result), ("id", id.json)]

/-- The refusal of a request. -/
def refusalMessage (id : Id) (r : Refusal) : Json :=
  messageWith [("error", r.json), ("id", id.json)]

/-- The method by which notices are told. -/
def noticeMethod : String := "window/logMessage"

/-- The number for the kind of a notice. -/
def noticeKind : Notice → Nat
  | .warning _ => 2
  | .info _ => 3

/-- The text of a notice. -/
def noticeText : Notice → String
  | .warning s => s
  | .info s => s

/-- A notice as a message to the editor. -/
def noticeMessage (n : Notice) : Json :=
  messageWith [
    ("method", .text noticeMethod),
    ("params", .object [("type", .whole (noticeKind n)), ("message", .text (noticeText n))])]

end ClassAtlas.Protocol
