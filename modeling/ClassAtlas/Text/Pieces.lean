/-
Texts in pieces, and numbers written in digits.
-/

namespace ClassAtlas.Text

/-- The pieces of a text between separators; a text without separators is one piece. -/
def splitAt (separator : Char → Bool) : List Char → List (List Char)
  | [] => [[]]
  | c :: r =>
    if separator c then
      [] :: splitAt separator r
    else
      match splitAt separator r with
      | [] => [[c]]
      | p :: ps => (c :: p) :: ps

/-- The value of a digit; letters of either case go on from ten. -/
def digitValue? (c : Char) : Option Nat :=
  if c.isDigit then some (c.toNat - '0'.toNat)
  else if 'a' ≤ c && c ≤ 'f' then some (c.toNat - 'a'.toNat + 10)
  else if 'A' ≤ c && c ≤ 'F' then some (c.toNat - 'A'.toNat + 10)
  else none

/-- The value of a numeral; none if a character is no digit of the base. -/
def numeral? (base : Nat) (cs : List Char) : Option Nat :=
  cs.foldlM (fun n c => do
    let d ← digitValue? c
    if d < base then some (base * n + d) else none) 0

/-- The value of a hexadecimal numeral; zero if it is none. -/
def hexadecimal (cs : List Char) : Nat :=
  (numeral? 16 cs).getD 0

end ClassAtlas.Text
