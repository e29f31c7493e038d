/-
Fields in the order of their names. Of several fields with one name only the last is kept.
-/
import ClassAtlas.Json

namespace ClassAtlas.Json

/-- Puts a field into fields that are in order; it takes the place of one with its name. -/
def insertField (name : String) (v : Json) : List (String × Json) → List (String × Json)
  | [] => [(name, v)]
  | (key, w) :: r =>
    if name < key then (name, v) :: (key, w) :: r
    else if name = key then (name, v) :: r
    else (key, w) :: insertField name v r

/-- Fields in the order of their names. -/
def inOrder (fields : List (String × Json)) : List (String × Json) :=
  fields.foldl (fun done (name, v) => insertField name v done) []

mutual

/-- A value in which the fields of every object are in order. -/
def ordered : Json → Json
  | .array items => .array (orderedItems items)
  | .object fields => .object (inOrder (orderedFields fields))
  | v => v

/-- Some items, each of them in order. -/
def orderedItems : List Json → List Json
  | [] => []
  | v :: r => ordered v :: orderedItems r

/-- Some fields, the value of each in order. -/
def orderedFields : List (String × Json) → List (String × Json)
  | [] => []
  | (name, v) :: r => (name, ordered v) :: orderedFields r

end

end ClassAtlas.Json
