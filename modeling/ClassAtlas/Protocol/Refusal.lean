/-
Why a request is not answered as it wishes, by cause, with the number and the text of each cause.
-/
import ClassAtlas.Json.Mismatch

namespace ClassAtlas.Protocol

/-- Why a request is refused: its bytes are no JSON, the editor has not greeted, the request does
not fit where it comes, its method is not known or not served, or its parameters are missing, not
wanted or not of their shape. -/
inductive Refusal
  | garbled
  | notGreeted
  | invalidRequest
  | unknownMethod (name : String)
  | unserved
  | missingParams
  | unwantedParams (text : String)
  | badParams (cause : Json.Mismatch)
  deriving DecidableEq, Repr

namespace Refusal

/-- The number of a refusal. -/
def code : Refusal → Int
  | .garbled => -32700
  | .notGreeted => -32002
  | .invalidRequest => -32600
  | .unknownMethod _ | .unserved => -32601
  | .missingParams | .unwantedParams _ | .badParams _ => -32602

/-- The text of a refusal. -/
def message : Refusal → String
  | .garbled => "Parse error"
  | .notGreeted => "Server not initialized"
  | .invalidRequest => "Invalid request"
  | .unknownMethod _ | .unserved => "Method not found"
  | .missingParams => "Missing params field"
  | .unwantedParams text => "Unexpected params: " ++ text
  | .badParams cause => cause.message

/-- A refusal as JSON; a method that is not known is named. -/
def json (r : Refusal) : Json :=
  .object ([("code", .whole r.code), ("message", .text r.message)] ++
    match r with
    | .unknownMethod name => [("data", Json.text name)]
    | _ => [])

end Refusal

end ClassAtlas.Protocol
