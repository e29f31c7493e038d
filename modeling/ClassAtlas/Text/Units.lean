/-
UTF-16 code units. A character outside the basic plane takes two units, any other one. A column
is a number of units, an index a number of characters; `indexAt` turns the first into the second,
and a column inside a pair belongs to the character of that pair.
-/

namespace ClassAtlas.Text

/-- The number of UTF-16 code units a character takes. -/
def units (c : Char) : Nat :=
  if c.toNat < 0x10000 then 1 else 2

/-- The number of UTF-16 code units a text takes, without the bound of the 32 bits in which editors
count columns. -/
def unitCount : List Char → Nat
  | [] => 0
  | c :: r => units c + unitCount r

/-- The index of the character that holds the unit at `column`; the length, if there is none. -/
def indexAt (column : Nat) : List Char → Nat
  | [] => 0
  | c :: r => if column < units c then 0 else indexAt (column - units c) r + 1

theorem units_pos (c : Char) : 0 < units c := by
  unfold units; split <;> decide

@[simp] theorem unitCount_nil : unitCount [] = 0 := rfl

@[simp] theorem unitCount_cons (c : Char) (r : List Char) :
    unitCount (c :: r) = units c + unitCount r := rfl

@[simp] theorem unitCount_append (a b : List Char) :
    unitCount (a ++ b) = unitCount a + unitCount b := by
  induction a with
  | nil => simp
  | cons c r ih => simp [ih, Nat.add_assoc]

end ClassAtlas.Text
