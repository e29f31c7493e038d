/-
Names of hosts in ASCII. A name is brought into one form for all ways of writing it: capital letters
become small ones, variants of a character become that character, what cannot be seen goes away,
and the rest is put in canonical form. Its parts between dots are labels. A label beyond ASCII is
written in basic characters, with the mark `xn--` before them; a label with that mark must be the
writing of such a label.
-/
import ClassAtlas.Uri.BasicCode
import ClassAtlas.Uri.Name.Direction
import ClassAtlas.Uri.Name.FurtherSubstitutes
import ClassAtlas.Uri.Name.Joint
import ClassAtlas.Uri.Name.Marks
import ClassAtlas.Uri.Name.Substitutes

namespace ClassAtlas.Uri.Name

open ClassAtlas.Text

/-- The substitutes of characters. -/
def substitutes : Table :=
  Table.ofLines (substituteLines ++ furtherSubstituteLines)

/-- The marks, which begin no label. -/
def marks : Table :=
  Table.ofLines markLines

/-- What stands for a character in a name; none if no name may hold it. -/
def substitute? (n : Nat) : Option (List Nat) :=
  match substitutes.row? n with
  | none => some [n]
  | some row =>
    if row.value = ['!'] then none else some (row.numbers.map (· + (n - row.first)))

/-- The one form of a text; none if it holds what no name may hold. -/
def form? (cs : List Char) : Option (List Char) := do
  let replaced ← cs.mapM fun c => substitute? c.toNat
  return (Canonical.form replaced.flatten).map Char.ofNat

/-- Whether a label is in ASCII. -/
def isAscii (label : List Char) : Bool :=
  label.all BasicCode.isBasic

/-- The mark of a label that is written in basic characters. -/
def basicMark : List Char := ['x', 'n', '-', '-']

/-- How many characters a label may have that is written in basic characters. -/
def longestLabel : Nat := 1000

/-- How many characters such a label may take when it is written, without the mark. -/
def longestWriting : Nat := 2000

/-- Whether a label beyond ASCII may be part of a name: it does not begin with a mark, and its
joiners stand where they belong. -/
def isLabel (label : List Char) : Bool :=
  !(label.head?.any fun c => (marks.row? c.toNat).isSome) && joinersFit [] label

/-- The label that a text between dots stands for. -/
def label? (cs : List Char) : Option (List Char) :=
  if basicMark.isPrefixOf cs then do
    let written := cs.drop basicMark.length
    if longestWriting < written.length then none
    let label ← BasicCode.decode? written
    if !isAscii label && form? label == some label && isLabel label then some label else none
  else if isAscii cs || isLabel cs then
    some cs
  else
    none

/-- A label as it is written. -/
def written? (label : List Char) : Option (List Char) :=
  if isAscii label then some label
  else if longestLabel < label.length then none
  else some (basicMark ++ BasicCode.encode label)

/-- A name in ASCII; none if it is no name. -/
def ascii? (cs : List Char) : Option (List Char) := do
  let labels ← (splitAt (· == '.') (← form? cs)).mapM label?
  if labels.any turns && !labels.all isReadable then none
  return ['.'].intercalate (← labels.mapM written?)

end ClassAtlas.Uri.Name
