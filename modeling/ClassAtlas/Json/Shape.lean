/-
Shapes of JSON values, and reading a value of a shape. What is read is the value in a plain form:
objects hold the fields that the shape has, absent ones left out, and an array that stands for an
object has become one.

The fields of an object are taken in the order of their names, and the first that is wrong is the
error; then comes the first field that is missing, in the order of the shape. An array that stands
for an object gives the fields by their places, and is taken from its start.

A part of an object whose meaning hangs on other parts is kept for a second look. Items that are too
many are told in other words there, and an empty object can stand for null.
-/
import ClassAtlas.Json.Mismatch
import ClassAtlas.Json.Ordered
import ClassAtlas.Uri.Reader

namespace ClassAtlas.Json

/-- The whole numbers that fit into some bits, with a sign or without. -/
inductive Width
  | unsigned32
  | signed32
  | signed64
  deriving DecidableEq, Repr

namespace Width

/-- The name of a width. -/
def name : Width → String
  | .unsigned32 => "u32"
  | .signed32 => "i32"
  | .signed64 => "i64"

/-- Whether a number fits. -/
def holds (n : Int) : Width → Bool
  | .unsigned32 => 0 ≤ n && n < Int.pow 2 32
  | .signed32 => -Int.pow 2 31 ≤ n && n < Int.pow 2 31
  | .signed64 => -Int.pow 2 63 ≤ n && n < Int.pow 2 63

end Width

/-- Whether a field has to be there: always; always among the items of an array, but in an object it
may be missing; nowhere. A null stands for a field that is not there, except for one that is
required or that has a default. -/
inductive Need
  | required
  | optional
  | omissible
  | defaulted
  deriving DecidableEq, Repr

namespace Need

/-- Whether null stands for no value. -/
def allowsNull : Need → Bool
  | .optional | .omissible => true
  | .required | .defaulted => false

/-- Whether an array may end before the field. -/
def mayEndBefore : Need → Bool
  | .omissible | .defaulted => true
  | .required | .optional => false

end Need

/-- A shape of values. A record is an object, or an array with the same fields by place; a parted
object has fields of its own and parts that are read from the fields it does not have itself. Of
several alternatives the first that fits counts. -/
inductive Shape
  | any
  | text
  | bool
  | number
  | whole (w : Width)
  | uri
  | choice (names : List String)
  | list (item : Shape)
  | dictionary (expected : String) (key value : Shape)
  | record (name : String) (fields : List (String × Need × Shape))
  | parted (name : String) (fields : List (String × Need × Shape)) (parts : List Shape)
  | boolOr (other : Shape)
  | oneOf (name : String) (alternatives : List Shape)

/-- Whether a value is read at once or was kept for a second look. -/
inductive Look
  | first
  | second
  deriving DecidableEq, Repr

/-! ## Fields -/

/-- What was read for a field of a shape. -/
structure FieldReading where
  name : String
  need : Need
  outcome : Except Mismatch (Option Json)

namespace FieldReading

/-- The mismatch of a field, if it has one. -/
def mismatch? (r : FieldReading) : Option (String × Mismatch) :=
  match r.outcome with
  | .error e => some (r.name, e)
  | .ok _ => none

/-- The value of a field, if it has one. -/
def value? (r : FieldReading) : Option (String × Json) :=
  match r.outcome with
  | .ok (some v) => some (r.name, v)
  | _ => none

/-- Whether a field lacks the value that it has to have. -/
def isMissing (r : FieldReading) : Bool :=
  r.need = .required && r.mismatch?.isNone && r.value?.isNone

/-- The mismatch whose field comes first by name. -/
def firstMismatch? (rs : List FieldReading) : Option Mismatch :=
  ((rs.filterMap mismatch?).mergeSort fun a b => a.1 ≤ b.1).head?.map (·.2)

/-- The fields that were read, if none of them is wrong and none is missing. -/
def gather (rs : List FieldReading) : Except Mismatch (List (String × Json)) :=
  match firstMismatch? rs, rs.find? isMissing with
  | some e, _ => .error e
  | none, some r => .error (.missing r.name)
  | none, none => .ok (rs.filterMap value?)

end FieldReading

/-- The value that is to be read for a field; none if it is absent or null stands for that. -/
def given? (need : Need) : Option Json → Option Json
  | some .null => if need.allowsNull then none else some .null
  | v => v

/-- What a record is called where it is expected. -/
def recordInWords (name : String) : String := "struct " ++ name

/-- A number of items in words. -/
def itemsInWords (n : Nat) : String :=
  toString n ++ (if n = 1 then " element" else " elements")

/-- What is expected of an array that is too long, having more items than are read. -/
def tooLong (look : Look) (read : Nat) : String :=
  match look with
  | .first => fewerItems
  | .second => itemsInWords read ++ " in sequence"

/-! ## Choices -/

/-- Reads one of some texts. -/
def readChoice (names : List String) (s : String) : Except Mismatch Json :=
  if names.contains s then .ok (.text s) else .error (.choice s names)

/-- Whether a value says nothing more about a choice. -/
def isUnit (look : Look) : Json → Bool
  | .null => true
  | .object [] => look = .second
  | _ => false

/-- Reads a choice: a text, or an object whose only field has that name and says nothing more. -/
def choiceOf (names : List String) (look : Look) : Json → Except Mismatch Json
  | .text s => readChoice names s
  | .object fields =>
    match inOrder fields with
    | [(s, v)] => do
      let chosen ← readChoice names s
      if isUnit look v then .ok chosen else .error (.unexpected v "unit")
    | _ => .error (.value (inWords (.object fields)) "map with a single key")
  | v => .error (.unexpected v "string or map")

/-! ## Reading -/

namespace Shape

mutual

/-- Reads a value of a shape. -/
def readAt : Shape → Look → Json → Except Mismatch Json
  | .any, _, v => .ok v
  | .text, _, v =>
    match v with
    | .text s => .ok (.text s)
    | v => .error (.unexpected v "a string")
  | .bool, _, v =>
    match v with
    | .bool b => .ok (.bool b)
    | v => .error (.unexpected v "a boolean")
  | .number, _, v =>
    match v with
    | .whole n => .ok (.whole n)
    | .real x => .ok (.real x)
    | v => .error (.unexpected v "f32")
  | .whole w, _, v =>
    match v with
    | .whole n => if w.holds n then .ok (.whole n) else .error (.value (inWords (.whole n)) w.name)
    | v => .error (.unexpected v w.name)
  | .uri, _, v =>
    match v with
    | .text s =>
      match Uri.parse s with
      | .ok _ => .ok (.text s)
      | .error cause => .error (.uri cause s)
    | v => .error (.unexpected v "a string representing an URL")
  | .choice names, look, v => choiceOf names look v
  | .list item, look, v =>
    match v with
    | .array items => (items.mapM (item.readAt look)).map .array
    | v => .error (.unexpected v "a sequence")
  | .dictionary expected key value, look, v =>
    match v with
    | .object fields => do
      let read ← (inOrder fields).mapM fun (name, v) => do
        let _ ← key.readAt look (.text name)
        return (name, ← value.readAt look v)
      return .object read
    | v => .error (.unexpected v expected)
  | .record name fields, look, v =>
    match v with
    | .object given => do
      return .object (← FieldReading.gather (readFields fields look given))
    | .array items => do
      let expected := recordInWords name ++ " with " ++ itemsInWords fields.length
      let read ← readPlaces fields look expected 0 items
      if fields.length < items.length then
        .error (.length items.length (tooLong look fields.length))
      else
        return .object read
    | v => .error (.unexpected v (recordInWords name))
  | .parted name fields parts, look, v =>
    match v with
    | .object given => do
      let own ← FieldReading.gather (readFields fields look given)
      let others := given.filter fun (key, _) => (fields.lookup key).isNone
      return .object (own ++ (← readParts parts (.object others)))
    | v => .error (.unexpected v (recordInWords name))
  | .boolOr other, _, v =>
    match v with
    | .bool b => .ok (.bool b)
    | v => other.readAt .first v
  | .oneOf name alternatives, _, v =>
    match readFirst? alternatives v with
    | some read => .ok read
    | none => .error (.alternative name)

/-- Reads the fields of an object, each by its name. -/
def readFields : List (String × Need × Shape) → Look → List (String × Json) → List FieldReading
  | [], _, _ => []
  | (name, need, shape) :: r, look, given =>
    let outcome := match given? need (lastField? name given) with
      | none => .ok none
      | some v => (shape.readAt look v).map some
    ⟨name, need, outcome⟩ :: readFields r look given

/-- Reads the fields of an array that stands for an object, the first of them at an index. -/
def readPlaces : List (String × Need × Shape) → Look → String → Nat → List Json →
    Except Mismatch (List (String × Json))
  | [], _, _, _, _ => .ok []
  | (_, need, _) :: r, look, expected, i, [] =>
    if need.mayEndBefore then readPlaces r look expected (i + 1) []
    else .error (.length i expected)
  | (name, need, shape) :: r, look, expected, i, v :: items => do
    match given? need (some v) with
    | none => readPlaces r look expected (i + 1) items
    | some v =>
      let read ← shape.readAt look v
      return (name, read) :: (← readPlaces r look expected (i + 1) items)

/-- Reads parts of an object one after the other. -/
def readParts : List Shape → Json → Except Mismatch (List (String × Json))
  | [], _ => .ok []
  | part :: r, v => do
    let read ← part.readAt .second v
    return read.fields ++ (← readParts r v)

/-- Reads the first of some shapes that fits. -/
def readFirst? : List Shape → Json → Option Json
  | [], _ => none
  | shape :: r, v =>
    match shape.readAt .second v with
    | .ok read => some read
    | .error _ => readFirst? r v

end

/-- Reads a value of a shape. -/
def read (shape : Shape) (v : Json) : Except Mismatch Json :=
  shape.readAt .first v

/-! ## Fields of a shape -/

/-- A field that has to be there. -/
def needs (name : String) (shape : Shape) : String × Need × Shape :=
  (name, .required, shape)

/-- A field that may be missing or null. -/
def allows (name : String) (shape : Shape) : String × Need × Shape :=
  (name, .optional, shape)

end Shape

end ClassAtlas.Json
