/-
Reading JSON. The tokens of a text are taken one by one; a stack holds the arrays and objects that
are still open, with what they hold so far, and a state says what may come next.
-/
import ClassAtlas.Json.Token

namespace ClassAtlas.Json

/-- An array or object that is still open, the last item first; an object also has the name of
the field being read. -/
inductive Frame
  | array (items : List Json)
  | object (fields : List (String × Json)) (name : String)

/-- What may come next: a value; a value or the end of the array just opened; the name of a field,
or the end of the object just opened; a colon; or what follows a value. -/
inductive Next
  | value
  | firstItem
  | name (fields : List (String × Json)) (first : Bool)
  | colon (fields : List (String × Json)) (name : String)
  | after (v : Json)

/-- The state of reading. -/
structure Reading where
  frames : List Frame
  next : Next

namespace Reading

/-- The state after a value that is complete. -/
def complete (r : Reading) (v : Json) : Reading :=
  { r with next := .after v }

/-- Takes the start of a value. -/
def startValue (r : Reading) : Token → Option Reading
  | .value v => some (r.complete v)
  | .openArray => some ⟨.array [] :: r.frames, .firstItem⟩
  | .openObject => some { r with next := .name [] true }
  | _ => none

/-- Takes one token. -/
def step (r : Reading) (t : Token) : Option Reading :=
  match r.next, t with
  | .value, t => r.startValue t
  | .firstItem, .closeArray =>
    match r.frames with
    | .array items :: frames => some ⟨frames, .after (.array items.reverse)⟩
    | _ => none
  | .firstItem, t => r.startValue t
  | .name fields _, .value (.text name) => some { r with next := .colon fields name }
  | .name fields true, .closeObject => some (r.complete (.object fields.reverse))
  | .name _ _, _ => none
  | .colon fields name, .colon => some ⟨.object fields name :: r.frames, .value⟩
  | .colon _ _, _ => none
  | .after v, t =>
    match r.frames, t with
    | .array items :: frames, .comma => some ⟨.array (v :: items) :: frames, .value⟩
    | .array items :: frames, .closeArray => some ⟨frames, .after (.array (v :: items).reverse)⟩
    | .object fields name :: frames, .comma => some ⟨frames, .name ((name, v) :: fields) false⟩
    | .object fields name :: frames, .closeObject =>
      some ⟨frames, .after (.object ((name, v) :: fields).reverse)⟩
    | _, _ => none

end Reading

/-- Reads a JSON value; none if the text is not JSON. -/
def parse? (s : String) : Option Json := do
  let ts ← tokens? s.toList
  match ← ts.foldlM Reading.step ⟨[], .value⟩ with
  | ⟨[], .after v⟩ => some v
  | _ => none

end ClassAtlas.Json
