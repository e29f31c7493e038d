/-
Lists of class names, as the value of a `class` attribute holds them: names separated by single
spaces, perhaps with the attribute's quotes still around them. A cursor selects the name it is on
or touches at the end; on a space it selects the name before that space, and past the end the last.
-/

namespace ClassAtlas.ClassList

/-- The quotes that may stand around a list. -/
def isQuote (c : Char) : Bool :=
  c == '"' || c == '\''

/-- The pieces of a text between single spaces; a text without spaces is one piece. -/
def pieces : List Char → List (List Char)
  | [] => [[]]
  | c :: r =>
    if c = ' ' then
      [] :: pieces r
    else
      match pieces r with
      | [] => [[c]]
      | p :: ps => (c :: p) :: ps

/-- The piece at an offset into the pieces as they stand, joined by single spaces. -/
def pieceAt : List (List Char) → Nat → List Char
  | [], _ => []
  | [p], _ => p
  | p :: q :: ps, offset =>
    if offset ≤ p.length then p else pieceAt (q :: ps) (offset - (p.length + 1))

/-- The class that a cursor selects, `offset` characters into the list and its quotes. -/
def classAt (list : String) (offset : Nat) : String :=
  let leading := (list.toList.takeWhile isQuote).length
  let inner := ((list.toList.dropWhile isQuote).reverse.dropWhile isQuote).reverse
  String.ofList (pieceAt (pieces inner) (offset - leading))

end ClassAtlas.ClassList
