/-
Reading TOML documents. First the layout of the whole document is found; then its lines are taken in
their order, and the first that cannot be taken decides what is wrong. Last it is seen whether the
numbers can be stored.
-/
import ClassAtlas.Toml.Layout

namespace ClassAtlas.Toml

/-- How many parts a key may have. -/
def longestPath : Nat := 80

/-! ## Words -/

/-- A character of a key without quotes. -/
def isKeyChar (c : Char) : Bool :=
  c.isAlphanum || c == '-' || c == '_'

/-- The text of a word in quotes. -/
def unquote? (quote : Char) (r : List Char) : Option String := do
  match ← splitQuoted quote r with
  | (text, []) => some (String.ofList text)
  | _ => none

/-- The key that a word stands for; it is on one line. -/
def key? (w : Written) : Option String :=
  match w with
  | '"' :: '"' :: '"' :: _ => none
  | '\'' :: '\'' :: '\'' :: _ => none
  | '"' :: r => unquote? '"' r
  | '\'' :: r => unquote? '\'' r
  | cs => if cs != [] && cs.all isKeyChar then some (String.ofList cs) else none

/-- The value that a word stands for. -/
def wordValue? (w : Written) : Option Value :=
  match w with
  | '"' :: r => (unquote? '"' r).map .text
  | '\'' :: r => (unquote? '\'' r).map .text
  | cs => scalar? cs

/-- What is there, or else a document that is not well formed. -/
def orMalformed {α : Type} (o : Option α) : Except Fault α :=
  o.elim (.error .malformed) .ok

/-- Reads the parts of a key. Their number is looked at last. -/
def readKeys (ws : List Written) : Except Fault KeyPath := do
  let keys ← orMalformed (ws.mapM key?)
  if longestPath < keys.length then .error .longKey else .ok keys

/-! ## Values -/

mutual

/-- Reads a value. -/
def Shape.read : Shape → Except Fault Value
  | .word w => orMalformed (wordValue? w)
  | .array items => return .array (← readItems items)
  | .table pairs => readPairs .empty pairs

/-- Reads the items of an array. -/
def readItems : List Shape → Except Fault (List Value)
  | [] => .ok []
  | v :: vs => do
    let v ← v.read
    return v :: (← readItems vs)

/-- Reads the pairs of an inline table, given what is in it so far. -/
def readPairs : Document → List (List Written × Shape) → Except Fault Value
  | _, [] => .ok .table
  | inner, (keys, v) :: more => do
    let keys ← readKeys keys
    let v ← v.read
    readPairs (← orMalformed (inner.define [] keys v)) more

end

/-! ## Documents -/

/-- Reads the lines of a document, under the table of the last header. A header for one more table
of an array can be refused; that counts only when the lines under it have been read, so until then
`refused` keeps it in mind. -/
def readLines (d : Document) (table : KeyPath) (refused : Bool) :
    List Line → Except Fault Document
  | [] => if refused then .error .malformed else .ok d
  | .header keys :: more => do
    if refused then .error .malformed
    let keys ← readKeys keys
    readLines (← orMalformed (d.openTable keys)) keys false more
  | .item keys :: more => do
    if refused then .error .malformed
    let keys ← readKeys keys
    match d.openItem keys with
    | some d => readLines d keys false more
    | none => readLines .empty keys true more
  | .pair keys v :: more => do
    let keys ← readKeys keys
    let v ← v.read
    readLines (← orMalformed (d.define table keys v)) table refused more

mutual

/-- Whether all numbers in a value can be stored. -/
def Shape.fits : Shape → Bool
  | .word w => w.head? == some '"' || w.head? == some '\'' || !isTooLarge w
  | .array items => allFit items
  | .table pairs => allPairsFit pairs

/-- Whether all numbers in some items can be stored. -/
def allFit : List Shape → Bool
  | [] => true
  | v :: vs => v.fits && allFit vs

/-- Whether all numbers in some pairs can be stored. -/
def allPairsFit : List (List Written × Shape) → Bool
  | [] => true
  | (_, v) :: more => v.fits && allPairsFit more

end

/-- Whether all numbers on a line can be stored. -/
def Line.fits : Line → Bool
  | .pair _ v => v.fits
  | _ => true

/-- Reads a document. Numbers are looked at last. -/
def parse (s : String) : Except Fault Document := do
  let lines ← orMalformed (lines? s)
  let d ← readLines .empty [] false lines
  if lines.all Line.fits then return d else .error .malformed

end ClassAtlas.Toml
