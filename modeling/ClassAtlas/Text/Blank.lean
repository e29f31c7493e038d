/-
Blank characters: those with the Unicode property White_Space. Words of a text are its runs of
other characters; a text is squeezed by joining its words with single spaces.
-/

namespace ClassAtlas.Text

/-- The characters with the Unicode property White_Space. -/
def isBlank (c : Char) : Bool :=
  let n := c.toNat
  (9 ≤ n && n ≤ 13) || n == 0x20 || n == 0x85 || n == 0xA0 || n == 0x1680 ||
    (0x2000 ≤ n && n ≤ 0x200A) || n == 0x2028 || n == 0x2029 || n == 0x202F || n == 0x205F ||
    n == 0x3000

/-- A text without the blanks at its two ends. -/
def trim (cs : List Char) : List Char :=
  ((cs.dropWhile isBlank).reverse.dropWhile isBlank).reverse

/-- The words of a text: its longest runs of characters that are not blank. -/
def words : List Char → List (List Char)
  | [] => []
  | c :: r =>
    if isBlank c then
      words r
    else
      match r, words r with
      | d :: _, w :: ws => if isBlank d then [c] :: w :: ws else (c :: w) :: ws
      | _, _ => [[c]]

/-- A text with every run of blanks inside it replaced by one space, and none at its ends. -/
def squeeze (cs : List Char) : List Char :=
  [' '].intercalate (words cs)

end ClassAtlas.Text
