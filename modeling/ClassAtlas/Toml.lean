/-
TOML documents as far as settings need them: what is written where. A document lists its paths
with what stands at each, a value or a table; how a table came about decides what may still be
added to it.

Of several tables in an array only the last one can still change, so a document keeps the paths of
that one.
-/

namespace ClassAtlas.Toml

/-- Why a text is no document: a key has too many parts, or something else. -/
inductive Fault
  | malformed
  | longKey
  deriving DecidableEq, Repr

/-- The head of what is told of a fault. Of a malformed text the parser goes on to tell the line and the
column, the line itself and what it expected there; none of that is kept. -/
def Fault.message : Fault → String
  | .malformed => "TOML parse error"
  | .longKey => "recursion limit\n"

/-- A value. Numbers and dates are only known to be well formed; inline tables are tables. -/
inductive Value
  | text (s : String)
  | bool (b : Bool)
  | number
  | date
  | array (items : List Value)
  | table
  deriving Repr

/-- How a table came about: under a header of its own, on the way to another header, or on the way
to a key with dots. -/
inductive Origin
  | header
  | passed
  | dotted
  deriving DecidableEq, Repr

/-- What stands at a path. -/
inductive Entry
  | value (v : Value)
  | table (origin : Origin)
  | tables
  deriving Repr

/-- A path: the keys from the root. -/
abbrev KeyPath := List String

/-- A document, or an inline table: what stands at each path. -/
structure Document where
  entries : List (KeyPath × Entry)
  deriving Repr

namespace Document

/-- The document that holds nothing. -/
def empty : Document := ⟨[]⟩

/-- What stands at a path. -/
def entry? (d : Document) (p : KeyPath) : Option Entry :=
  d.entries.lookup p

/-- Puts an entry at a path, in place of what was there. -/
def put (d : Document) (p : KeyPath) (e : Entry) : Document :=
  ⟨(p, e) :: d.entries.filter (·.1 != p)⟩

/-- Forgets everything below a path. -/
def clearBelow (d : Document) (p : KeyPath) : Document :=
  ⟨d.entries.filter fun e => !(p.isPrefixOf e.1 && e.1 != p)⟩

/-- Passes through the tables on the way of a header; those that are missing come about. -/
def pass (d : Document) (done : KeyPath) : KeyPath → Option Document
  | [] => some d
  | k :: r =>
    let p := done ++ [k]
    match d.entry? p with
    | none => (d.put p (.table .passed)).pass p r
    | some (.value _) => none
    | some _ => d.pass p r

/-- Passes through the tables on the way of a key with dots; those that are missing come about. A
table with a header of its own is closed to such keys. -/
def passDotted (d : Document) (done : KeyPath) : KeyPath → Option Document
  | [] => some d
  | k :: r =>
    let p := done ++ [k]
    match d.entry? p with
    | none => (d.put p (.table .dotted)).passDotted p r
    | some (.value _) | some (.table .header) => none
    | some _ => d.passDotted p r

/-- The header of a table. The table may have been passed before, but not defined. -/
def openTable (d : Document) (p : KeyPath) : Option Document := do
  let d ← d.pass [] p.dropLast
  match d.entry? p with
  | none | some (.table .passed) => some (d.put p (.table .header))
  | _ => none

/-- The header of one more table of an array of tables. -/
def openItem (d : Document) (p : KeyPath) : Option Document := do
  let d ← d.pass [] p.dropLast
  match d.entry? p with
  | none | some .tables => some ((d.clearBelow p).put p .tables)
  | _ => none

/-- A key with its value in a table. The table that holds the last key must have come about by
dots, if the key has dots, and nothing may stand at the key yet. -/
def define (d : Document) (table key : KeyPath) (v : Value) : Option Document := do
  let d ← d.passDotted table key.dropLast
  let holder := table ++ key.dropLast
  let fits := key.length == 1 || match d.entry? holder with
    | some (.table .dotted) => true
    | _ => false
  match fits, d.entry? (table ++ key) with
  | true, none => some (d.put (table ++ key) (.value v))
  | _, _ => none

end Document

end ClassAtlas.Toml
