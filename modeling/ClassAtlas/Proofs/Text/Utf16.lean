/-
Texts in UTF-16. A column counts the code units of this encoding (`length_utf16`), so that cutting the encoding of a
text at two columns gives the encoding of what stands between the characters at which they fall (`extract_utf16`).
-/
import ClassAtlas.Text.Units

namespace ClassAtlas.Text

/-- The code units of a character: one in the basic plane, and two surrogates with ten bits each outside it. -/
def utf16Char (c : Char) : List UInt16 :=
  if c.toNat < 0x10000 then
    [c.toNat.toUInt16]
  else
    [(0xD800 + (c.toNat - 0x10000) / 0x400).toUInt16, (0xDC00 + (c.toNat - 0x10000) % 0x400).toUInt16]

/-- The code units of a text. -/
def utf16 (cs : List Char) : List UInt16 :=
  cs.flatMap utf16Char

theorem length_utf16Char (c : Char) : (utf16Char c).length = units c := by
  unfold utf16Char units
  split <;> rfl

@[simp] theorem length_utf16 (cs : List Char) : (utf16 cs).length = unitCount cs := by
  induction cs with
  | nil => rfl
  | cons c r ih =>
    rw [utf16, List.flatMap_cons, List.length_append, length_utf16Char, unitCount_cons, ← ih]
    rfl

@[simp] theorem utf16_append (a b : List Char) : utf16 (a ++ b) = utf16 a ++ utf16 b :=
  List.flatMap_append

theorem extract_middle {α : Type} (left middle right : List α) :
    (left ++ middle ++ right).extract left.length (left ++ middle).length = middle := by
  rw [List.extract_eq_take_drop, List.append_assoc, List.drop_left, List.length_append, Nat.add_sub_cancel_left,
    List.take_left]

/-- What stands between two columns, if they fall between characters. -/
theorem extract_utf16 (left middle right : List Char) :
    (utf16 (left ++ middle ++ right)).extract (unitCount left) (unitCount (left ++ middle)) = utf16 middle := by
  have hmiddle := extract_middle (utf16 left) (utf16 middle) (utf16 right)
  rwa [← utf16_append, ← utf16_append, length_utf16, length_utf16] at hmiddle

end ClassAtlas.Text
