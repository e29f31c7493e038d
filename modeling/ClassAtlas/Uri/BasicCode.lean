/-
Names in basic characters. The characters of a label beyond ASCII are written as distances, in
order of their numbers: how many places and numbers lie between one insertion and the next. Each
distance is a number in digits of base 36 whose last digit is below a threshold; the thresholds
follow the size of the distances before.
-/
import ClassAtlas.Text.Pieces

namespace ClassAtlas.Uri.BasicCode

/-! ## Thresholds -/

/-- Divides a distance until it is small, and counts 36 for each division. -/
def scale (k distance : Nat) : Nat :=
  if 455 < distance then scale (k + 36) (distance / 35) else k + 36 * distance / (distance + 38)
termination_by distance
decreasing_by exact Nat.div_lt_self (by omega) (by omega)

/-- The bias after a distance; `count` is the number of characters then. -/
def adapt (first : Bool) (distance count : Nat) : Nat :=
  let distance := if first then distance / 700 else distance / 2
  scale 0 (distance + distance / count)

/-- The threshold of a digit; `k` is 36 for the first digit and grows by 36. -/
def threshold (bias k : Nat) : Nat :=
  if k ≤ bias then 1 else if bias + 26 ≤ k then 26 else k - bias

theorem threshold_pos (bias k : Nat) : 0 < threshold bias k := by
  unfold threshold
  split
  · omega
  · split <;> omega

/-- The bias at the beginning. -/
def firstBias : Nat := 72

/-- The number before which no character is inserted. -/
def firstNumber : Nat := 0x80

/-! ## Digits -/

/-- The character of a digit: letters, then the decimal digits. -/
def digit (n : Nat) : Char :=
  if n < 26 then Char.ofNat ('a'.toNat + n) else Char.ofNat ('0'.toNat + (n - 26))

/-- The value of a digit. -/
def value? (c : Char) : Option Nat :=
  if c.isLower then some (c.toNat - 'a'.toNat)
  else if c.isDigit then some (c.toNat - '0'.toNat + 26)
  else none

/-- A distance in digits. -/
def digits (bias k distance : Nat) : List Char :=
  let t := threshold bias k
  if distance < t then
    [digit distance]
  else
    digit (t + (distance - t) % (36 - t)) :: digits bias (k + 36) ((distance - t) / (36 - t))
termination_by distance
decreasing_by
  have := threshold_pos bias k
  exact Nat.lt_of_le_of_lt (Nat.div_le_self _ _) (by omega)

/-- Weights of digits stay below this. -/
def weightLimit : Nat := Nat.pow 2 32

/-- Reads the digits of a distance from the text; `k` and `weight` belong to the next digit. -/
def distance? (bias k weight : Nat) :
    (cs : List Char) → Option (Nat × { r : List Char // r.length < cs.length })
  | [] => none
  | c :: r => do
    let d ← value? c
    let t := threshold bias k
    if d < t then
      return (d * weight, ⟨r, Nat.lt_succ_self _⟩)
    if weightLimit ≤ weight * (36 - t) then none
    let (more, ⟨rest, shorter⟩) ← distance? bias (k + 36) (weight * (36 - t)) r
    return (d * weight + more, ⟨rest, Nat.lt_succ_of_lt shorter⟩)

/-! ## Writing -/

/-- Whether a character is written as it is. -/
def isBasic (c : Char) : Bool :=
  c.toNat < firstNumber

/-- The state of writing: the distance since the last insertion, the bias, the number of
characters that are handled, and what is written. -/
structure Writing where
  distance : Nat
  bias : Nat
  handled : Nat
  written : List Char

/-- Writes the occurrences of the character with number `n`; `basics` is the number of basic
characters. -/
def Writing.pass (basics n : Nat) (w : Writing) (label : List Char) : Writing :=
  label.foldl (fun w c =>
    if c.toNat < n then
      { w with distance := w.distance + 1 }
    else if c.toNat = n then
      { distance := 0
        bias := adapt (w.handled == basics) w.distance (w.handled + 1)
        handled := w.handled + 1
        written := w.written ++ digits w.bias 36 w.distance }
    else
      w) w

/-- Writes the characters with some numbers, in their order; `next` is the least number that is
not handled. -/
def Writing.passAll (basics : Nat) (label : List Char) (next : Nat) (w : Writing) :
    List Nat → Writing
  | [] => w
  | n :: more =>
    let w := { w with distance := w.distance + (n - next) * (w.handled + 1) }
    let w := w.pass basics n label
    { w with distance := w.distance + 1 }.passAll basics label (n + 1) more

/-- A label in basic characters: those it has, and a hyphen if there are any; then the distances. -/
def encode (label : List Char) : List Char :=
  let basics := label.filter isBasic
  let others := ((label.filter (!isBasic ·)).map Char.toNat).mergeSort.eraseDups
  let start : Writing :=
    ⟨0, firstBias, basics.length, if basics = [] then [] else basics ++ ['-']⟩
  (start.passAll basics.length label firstNumber others).written

/-! ## Reading -/

/-- The character with a number, if there is one. -/
def charOf? (n : Nat) : Option Char :=
  if h : n.isValidChar then some (Char.ofNatAux n h) else none

/-- Reads distances and inserts their characters into a label; `number` and `place` say where the
last insertion was. -/
def insertAll (bias number place : Nat) (label : List Char) (cs : List Char) :
    Option (List Char) :=
  if cs = [] then some label else
  match distance? bias 36 1 cs with
  | none => none
  | some (d, ⟨rest, _⟩) =>
    let count := label.length + 1
    let n := number + (place + d) / count
    let i := (place + d) % count
    match charOf? n with
    | none => none
    | some c =>
      insertAll (adapt (place == 0) d count) n (i + 1)
        (label.take i ++ [c] ++ label.drop i) rest
termination_by cs.length

/-- The label that a text in basic characters stands for. -/
def decode? (cs : List Char) : Option (List Char) :=
  let distances := (cs.reverse.takeWhile (· != '-')).reverse
  let basics := cs.take (cs.length - distances.length - 1)
  if basics = [] then
    insertAll firstBias firstNumber 0 [] cs
  else
    insertAll firstBias firstNumber 0 basics distances

end ClassAtlas.Uri.BasicCode
