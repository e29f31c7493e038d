/-
Places in a stylesheet, kept up to date character by character. A line ends at a line feed, a
form feed, a carriage return, or a carriage return with its line feed; columns count UTF-16 units.
Since a mark remembers a carriage return just read, marks of consecutive pieces compose: to read
`a ++ b` is to read `a` and then `b`.

Readers are told locations, whose columns count from one. There are two ways back to a position:
of a character that comes first in a stretch, and of the place behind a character.
-/
import ClassAtlas.Text.Position
import ClassAtlas.Text.Units

namespace ClassAtlas.Stylesheet

/-- How far reading has come: the place, and whether the last character was a carriage return. The
lines and columns of a mark do not wrap around at 2^32, as counts of 32 bits would. -/
structure Mark where
  place : Position
  afterReturn : Bool
  deriving DecidableEq, Repr

/-- A place as it is told: its line, counted from zero, and its column, counted from one. -/
structure Location where
  line : Nat
  column : Nat
  deriving DecidableEq, Repr

namespace Location

/-- The position of the character at a location. -/
def ofFirst (l : Location) : Position := ⟨l.line, l.column - 1⟩

/-- The position behind the character at a location. Its column, counted from zero, is the
character's own, counted from one, if the character takes one unit. -/
def behind (l : Location) : Position := ⟨l.line, l.column⟩

end Location

namespace Mark

/-- The beginning of a text. -/
def start : Mark := ⟨⟨0, 0⟩, false⟩

/-- The location of the character that comes next. -/
def location (m : Mark) : Location := ⟨m.place.line, m.place.column + 1⟩

/-- Reads one character. A line feed after a carriage return ends no further line. -/
def step (m : Mark) (c : Char) : Mark :=
  if c = '\n' then
    if m.afterReturn then ⟨m.place, false⟩ else ⟨⟨m.place.line + 1, 0⟩, false⟩
  else if c = '\r' then
    ⟨⟨m.place.line + 1, 0⟩, true⟩
  else if c = '\x0c' then
    ⟨⟨m.place.line + 1, 0⟩, false⟩
  else
    ⟨m.place.right (Text.units c), false⟩

/-- Reads a text. -/
def advance (m : Mark) (cs : List Char) : Mark :=
  cs.foldl step m

@[simp] theorem advance_nil (m : Mark) : m.advance [] = m := rfl

@[simp] theorem advance_append (m : Mark) (a b : List Char) :
    m.advance (a ++ b) = (m.advance a).advance b := by
  simp [advance, List.foldl_append]

end Mark

end ClassAtlas.Stylesheet
