/-
Lines of a document. A line ends at a line feed, and a carriage return just before that line feed
belongs to the line's end. A carriage return on its own is an ordinary character, and what follows
the last line feed is a line only if it is not empty.
-/

namespace ClassAtlas.Text

/-- The lines of a text, without their ends. -/
def lines : List Char → List (List Char)
  | [] => []
  | '\n' :: r => [] :: lines r
  | '\r' :: '\n' :: r => [] :: lines r
  | c :: r =>
    match lines r with
    | [] => [[c]]
    | l :: ls => (c :: l) :: ls

/-- The line with the given number, counted from zero. -/
def line? (text : List Char) (n : Nat) : Option (List Char) :=
  (lines text)[n]?

end ClassAtlas.Text
