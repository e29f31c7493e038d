/-
Tables about characters. A table is written as lines of rows with spaces between them; a row names
the characters it is about by their numbers in hexadecimal, and after a colon what it says about
them. `41-5A:61` is about all numbers from 41 to 5A, and `100-12E/2:101` about every second one of
a range.
-/
import ClassAtlas.Text.Pieces

namespace ClassAtlas.Text

/-- A row of a table: what it says about every `step`-th number from `first` to `last`. -/
structure Row where
  first : Nat
  last : Nat
  step : Nat
  value : List Char
  deriving DecidableEq, Repr

namespace Row

/-- Whether a row is about a number. -/
def holds (r : Row) (n : Nat) : Bool :=
  r.first ≤ n && n ≤ r.last && (n - r.first) % r.step == 0

/-- Reads a row. -/
def ofText (cs : List Char) : Row :=
  let numbers := cs.takeWhile (· != ':')
  let range := numbers.takeWhile (· != '/')
  let first := hexadecimal (range.takeWhile (· != '-'))
  { first
    last := match range.dropWhile (· != '-') with
      | [] => first
      | _ :: last => hexadecimal last
    step := match numbers.dropWhile (· != '/') with
      | [] => 1
      | _ :: step => hexadecimal step
    value := (cs.dropWhile (· != ':')).drop 1 }

/-- What a row says, as numbers with dots between them. -/
def numbers (r : Row) : List Nat :=
  if r.value = [] then [] else (splitAt (· == '.') r.value).map hexadecimal

end Row

/-- A table. -/
abbrev Table := List Row

namespace Table

/-- Reads the lines of a table. -/
def ofLines (lines : List String) : Table :=
  lines.flatMap fun line => (splitAt (· == ' ') line.toList).map Row.ofText

/-- The row that is about a number. -/
def row? (t : Table) (n : Nat) : Option Row :=
  t.find? (·.holds n)

end Table

end ClassAtlas.Text
