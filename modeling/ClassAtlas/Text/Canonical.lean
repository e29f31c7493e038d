/-
The canonical form of texts. What a reader sees as one character can be written as one character
or as another one with marks on it, and marks on the same character can stand in several orders. In
the canonical form marks stand in the order of their classes, and what can be one character is one.

Characters are given by their numbers. The form is right for texts without capital letters and
other characters that names replace; only these are in the table of composites.
-/
import ClassAtlas.Text.Canonical.Classes
import ClassAtlas.Text.Canonical.Composites
import ClassAtlas.Text.Table

namespace ClassAtlas.Text.Canonical

/-! ## Tables -/

/-- A character with what it is made of. -/
structure Composite where
  whole : Nat
  parts : List Nat
  deriving DecidableEq, Repr

/-- The composite characters. -/
def composites : List Composite :=
  (Table.ofLines compositeLines).map fun r => ⟨r.first, r.numbers⟩

/-- The combining classes. -/
def classes : Table :=
  Table.ofLines classLines

/-- The combining class of a character. -/
def classOf (n : Nat) : Nat :=
  ((classes.row? n).map fun r => hexadecimal r.value).getD 0

/-! ## Korean syllables -/

/-- The first syllable. -/
def firstSyllable : Nat := 0xAC00

/-- The parts of a syllable: a consonant, a vowel, and perhaps a consonant at the end. -/
def syllableParts? (n : Nat) : Option (List Nat) :=
  let i := n - firstSyllable
  if firstSyllable ≤ n ∧ i < 19 * 21 * 28 then
    some ([0x1100 + i / (21 * 28), 0x1161 + i / 28 % 21] ++
      if i % 28 = 0 then [] else [0x11A7 + i % 28])
  else
    none

/-- The syllable made of a consonant and a vowel, or of a syllable without a consonant at its end
and that consonant. -/
def syllable? (a b : Nat) : Option Nat :=
  if 0x1100 ≤ a ∧ a < 0x1113 ∧ 0x1161 ≤ b ∧ b < 0x1176 then
    some (firstSyllable + ((a - 0x1100) * 21 + (b - 0x1161)) * 28)
  else if firstSyllable ≤ a ∧ a < firstSyllable + 19 * 21 * 28 ∧ (a - firstSyllable) % 28 = 0 ∧
      0x11A7 < b ∧ b < 0x11C3 then
    some (a + (b - 0x11A7))
  else
    none

/-! ## Taking apart and putting together -/

/-- What a character is made of, taken apart as far as possible. -/
def partsOf (n : Nat) : List Nat :=
  match syllableParts? n with
  | some parts => parts
  | none => ((composites.find? (·.whole == n)).map (·.parts)).getD [n]

/-- The character made of two others, if there is one. -/
def compose? (a b : Nat) : Option Nat :=
  match syllable? a b with
  | some n => some n
  | none =>
    let parts := partsOf a ++ [b]
    (composites.find? (·.parts == parts)).map (·.whole)

/-- Puts a character before others that are in order: marks of a lower class come before it. -/
def insertMark (n : Nat) : List Nat → List Nat
  | [] => [n]
  | m :: r =>
    if classOf n ≠ 0 ∧ classOf m ≠ 0 ∧ classOf m < classOf n then m :: insertMark n r
    else n :: m :: r

/-- The state of putting together, each list the last first: what is done, the last character that
marks can go on, and the marks after it that stay on their own. -/
structure Composing where
  done : List Nat
  base : Option Nat
  marks : List Nat

namespace Composing

/-- Whether a character is next to the base: no mark of its class or a higher one stands between. -/
def reaches (s : Composing) (n : Nat) : Bool :=
  match s.marks with
  | [] => true
  | m :: _ => classOf m < classOf n

/-- All that has been put together, the last first. -/
def all (s : Composing) : List Nat :=
  s.marks ++ s.base.toList ++ s.done

/-- Takes the next character. -/
def step (s : Composing) (n : Nat) : Composing :=
  match (s.base.filter fun _ => s.reaches n).bind (compose? · n) with
  | some whole => { s with base := some whole }
  | none => if classOf n = 0 then ⟨s.all, some n, []⟩ else { s with marks := n :: s.marks }

end Composing

/-- The canonical form of a text. -/
def form (ns : List Nat) : List Nat :=
  let parts := (ns.flatMap partsOf).foldr insertMark []
  (parts.foldl Composing.step ⟨[], none, []⟩).all.reverse

end ClassAtlas.Text.Canonical
