/-
Places in a text. A position is a line and a column, both counted from zero; a column counts the
UTF-16 code units before it on its line, as editors do. A span runs from one position to another,
the second not included.
-/

namespace ClassAtlas

/-- A place in a text: the line, and the UTF-16 units before it on that line. Both are natural numbers;
editors count in 32 bits, so beyond 2^32 lines or columns their positions are not these. -/
structure Position where
  line : Nat
  column : Nat
  deriving DecidableEq, Repr, Inhabited

namespace Position

/-- The order of reading: by line, then by column. -/
def before (p q : Position) : Prop :=
  p.line < q.line ∨ p.line = q.line ∧ p.column < q.column

instance (p q : Position) : Decidable (p.before q) :=
  inferInstanceAs (Decidable (_ ∨ _))

/-- The position some columns further on the same line. -/
def right (p : Position) (columns : Nat) : Position :=
  { p with column := p.column + columns }

end Position

/-- A stretch of a text, from `start` up to but not including `stop`. -/
structure Span where
  start : Position
  stop : Position
  deriving DecidableEq, Repr, Inhabited

end ClassAtlas
