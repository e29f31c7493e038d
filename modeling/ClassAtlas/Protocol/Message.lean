/-
Messages that come in. A request names a method; with an id it asks for an answer, without one it
does not. A response answers a request of this server. Each gives the version of the protocol, and
no field of a message may be there twice.
-/
import ClassAtlas.Json.Shape

namespace ClassAtlas.Protocol

open ClassAtlas.Json (Shape)
open ClassAtlas.Json.Shape (needs allows)

/-- The id of a request; null is one. -/
inductive Id
  | number (n : Int)
  | text (s : String)
  | null
  deriving DecidableEq, Repr

namespace Id

/-- Reads an id. -/
def ofJson? : Json → Option Id
  | .whole n => if Json.Width.signed64.holds n then some (.number n) else none
  | .text s => some (.text s)
  | .null => some .null
  | _ => none

/-- An id as JSON. -/
def json : Id → Json
  | .number n => .whole n
  | .text s => .text s
  | .null => .null

end Id

/-- A request. Parameters that are null are there. -/
structure Request where
  id : Option Id
  method : String
  params : Option Json

/-- A message that comes in. -/
inductive Message
  | request (r : Request)
  | response

/-! ## Reading -/

/-- The version of the protocol that every message gives. -/
def version : String := "2.0"

/-- Reads the version. -/
def version? : Json → Option Unit
  | .text s => if s = version then some () else none
  | _ => none

/-- Reads a field that may be absent but not be there twice. -/
def single? {α : Type} (read : Json → Option α) (name : String) (fields : List (String × Json)) :
    Option (Option α) :=
  match fields.filter (·.1 = name) with
  | [] => some none
  | [(_, v)] => (read v).map some
  | _ => none

/-- The parameters of a request, with all fields in order. -/
def params? (v : Json) : Option Json := some v.ordered

namespace Request

/-- Reads a request from the fields of an object. A request without a method has an empty one. -/
def ofFields? (fields : List (String × Json)) : Option Request := do
  let _ ← ← single? version? "jsonrpc" fields
  let method ← single? Json.asText? "method" fields
  return ⟨← single? Id.ofJson? "id" fields, method.getD "", ← single? params? "params" fields⟩

/-- Reads a request from the items of an array: version, method, parameters and id. -/
def ofItems? : List Json → Option Request
  | [v] => do
    let _ ← version? v
    return ⟨none, "", none⟩
  | [v, method] => do
    let _ ← version? v
    return ⟨none, ← method.asText?, none⟩
  | [v, method, params] => do
    let _ ← version? v
    return ⟨none, ← method.asText?, ← params? params⟩
  | [v, method, params, id] => do
    let _ ← version? v
    return ⟨← Id.ofJson? id, ← method.asText?, ← params? params⟩
  | _ => none

/-- Reads a request. -/
def ofJson? : Json → Option Request
  | .object fields => ofFields? fields
  | .array items => ofItems? items
  | _ => none

end Request

/-- The shape of an error in a response. -/
def errorShape : Shape :=
  .record "Error" [needs "code" (.whole .signed64), needs "message" .text, allows "data" .any]

/-- Whether the fields of an object are those of a response: version, id, and a result or an
error. -/
def isResponse (fields : List (String × Json)) : Bool :=
  let given {α : Type} (read : Json → Option α) (name : String) : Bool :=
    (single? read name fields).join.isSome
  given version? "jsonrpc" && given Id.ofJson? "id" &&
    (given some "result" || given (fun v => (errorShape.readAt .second v).toOption) "error")

/-- Reads a message; none if it is neither a response nor a request. -/
def Message.ofJson? (v : Json) : Option Message :=
  if isResponse v.fields then some .response else (Request.ofJson? v).map .request

end ClassAtlas.Protocol
