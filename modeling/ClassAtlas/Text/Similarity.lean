/-
How alike two texts are, after Jaro: characters match if they are equal and not further apart than
about half the longer text, each character at most once; matches in another order count less. The
measure is 1 for equal texts and 0 for texts without a match. It is a mean of three fractions, each
of them and the mean rounded to a floating-point number.
-/

namespace ClassAtlas.Text

/-- The first place in a text, from `low` on and before `high`, where a character stands that is
not taken yet. -/
def findMatch (c : Char) (low high : Nat) (taken : List Nat) (b : List Char) : Option Nat :=
  (List.range (min high b.length)).find? fun j =>
    low ≤ j && b[j]? == some c && !taken.contains j

/-- The matches of the characters of a text from place `i` on with those of another text, as pairs
of places; `taken` holds the places in the other text that are taken. -/
def matchesFrom (window : Nat) (b : List Char) (i : Nat) (taken : List Nat) :
    List Char → List (Nat × Nat)
  | [] => []
  | c :: r =>
    match findMatch c (i - window) (i + window + 1) taken b with
    | none => matchesFrom window b (i + 1) taken r
    | some j => (i, j) :: matchesFrom window b (i + 1) (j :: taken) r

/-- How alike two texts are. -/
def similarity (a b : List Char) : Float :=
  if a = [] && b = [] then 1
  else
    let pairs := matchesFrom (max a.length b.length / 2 - 1) b 0 [] a
    let matched := pairs.length
    if matched = 0 then 0
    else
      let left := pairs.map fun p => a[p.1]?
      let right := (pairs.map (·.2)).mergeSort.map fun j => b[j]?
      let moved := ((left.zip right).countP fun p => p.1 != p.2) / 2
      let m := matched.toFloat
      (m / a.length.toFloat + m / b.length.toFloat + (matched - moved).toFloat / m) / 3

end ClassAtlas.Text
