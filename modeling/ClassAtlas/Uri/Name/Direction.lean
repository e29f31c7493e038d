/-
Directions of writing in names. As soon as a name has a character that is written from right to
left, the parts of the name must be such that their characters do not get mixed up when they are
shown: a part has one direction, digits of one kind, and no sign at its ends.
-/
import ClassAtlas.Text.Table
import ClassAtlas.Uri.Name.Directions

namespace ClassAtlas.Uri.Name

open ClassAtlas.Text

/-- How a character is written: from left to right, from right to left, as an Arabic or European
number, as the character before it, or as what is around it. -/
inductive Direction
  | leftToRight
  | rightToLeft
  | arabicNumber
  | europeanNumber
  | mark
  | neutral
  deriving DecidableEq, Repr

/-- The directions of characters. -/
def directions : Table :=
  Table.ofLines directionLines

/-- The direction of a character. -/
def Direction.of (c : Char) : Direction :=
  match (directions.row? c.toNat).map Row.value with
  | some ['R'] => .rightToLeft
  | some ['A'] => .arabicNumber
  | some ['E'] => .europeanNumber
  | some ['M'] => .mark
  | some ['N'] => .neutral
  | _ => .leftToRight

/-- Whether a part of a name has characters that bring a direction from right to left. -/
def turns (label : List Char) : Bool :=
  label.any fun c => Direction.of c = .rightToLeft || Direction.of c = .arabicNumber

/-- Whether a part of a name can be shown: it begins with a letter and keeps the direction of that
letter, up to a letter or a digit at its end. -/
def isReadable (label : List Char) : Bool :=
  match label.map Direction.of with
  | [] => true
  | first :: rest =>
    let last := (rest.reverse.dropWhile (· = .mark)).head?.getD first
    match first with
    | .leftToRight =>
      !rest.any (fun d => d = .rightToLeft || d = .arabicNumber) &&
        (last = .leftToRight || last = .europeanNumber)
    | .rightToLeft =>
      !rest.any (· = .leftToRight) && last != .neutral &&
        !(rest.any (· = .arabicNumber) && rest.any (· = .europeanNumber))
    | _ => false

end ClassAtlas.Uri.Name
