/-
JSON values. A number is whole if it is written without point and exponent and fits into 64 bits;
any other number is a floating-point number. An object keeps its fields in the order in which they
were written; of several fields with one name the last counts.
-/

namespace ClassAtlas

/-- A JSON value. -/
inductive Json
  | null
  | bool (b : Bool)
  | whole (n : Int)
  | real (x : Float)
  | text (s : String)
  | array (items : List Json)
  | object (fields : List (String × Json))
  deriving Inhabited

namespace Json

/-- The last field of a list with a name. -/
def lastField? (name : String) : List (String × Json) → Option Json
  | [] => none
  | (key, value) :: r =>
    match lastField? name r with
    | some later => some later
    | none => if key = name then some value else none

/-- The field of an object with a name. -/
def field? (v : Json) (name : String) : Option Json :=
  match v with
  | .object fields => lastField? name fields
  | _ => none

/-- The field of an object with a name; null counts as absent. -/
def present? (v : Json) (name : String) : Option Json :=
  match v.field? name with
  | some .null => none
  | other => other

/-- The text of a value that is a text. -/
def asText? : Json → Option String
  | .text s => some s
  | _ => none

/-- The number of a value that is a whole number and not negative. -/
def asNat? : Json → Option Nat
  | .whole n => if 0 ≤ n then some n.toNat else none
  | _ => none

/-- The items of a value that is an array. -/
def asArray? : Json → Option (List Json)
  | .array items => some items
  | _ => none

/-- The fields of a value; only an object has some. -/
def fields : Json → List (String × Json)
  | .object fields => fields
  | _ => []

/-- Whether a value is an object. -/
def isObject : Json → Bool
  | .object _ => true
  | _ => false

end Json

end ClassAtlas
