/-
Columns and indices of one text, there and back. An index is reached by a column exactly if the characters in front of
it take no more UTF-16 units than the column says (`le_indexAt_iff_take`), so that turning columns into indices and
counting the units in front of an index are adjoint: the index of a column is the last one that the column reaches, and
an index that is turned into a column comes back as itself (`indexAt_utf16_adjoint`). The range of a word is told in
such columns, and the indices they lead back to cut the word out of its line.
-/
import ClassAtlas.Proofs.Word.Stable
import Mathlib.Order.Monotone.Defs

namespace ClassAtlas.Text

/-- An index is reached by a column exactly if its own column is. -/
theorem le_indexAt_iff_take {cs : List Char} {k : Nat} (hk : k ≤ cs.length) (column : Nat) :
    k ≤ indexAt column cs ↔ unitCount (cs.take k) ≤ column := by
  have h := le_indexAt_iff column (cs.take k) (cs.drop k)
  rwa [List.take_append_drop, List.length_take_of_le hk] at h

theorem unitCount_take_indexAt_le (column : Nat) (cs : List Char) :
    unitCount (cs.take (indexAt column cs)) ≤ column :=
  (le_indexAt_iff_take (indexAt_le_length column cs) column).1 (Nat.le_refl _)

/-- The column of an index leads back to it. -/
theorem indexAt_unitCount_take {cs : List Char} {k : Nat} (hk : k ≤ cs.length) :
    indexAt (unitCount (cs.take k)) cs = k := by
  have hreached : k ≤ indexAt (unitCount (cs.take k)) cs := (le_indexAt_iff_take hk _).2 (Nat.le_refl _)
  -- a later index has a later column, for every character takes a unit
  rcases Nat.lt_or_eq_of_le hreached with hlt | heq
  · have hlater := Word.unitCount_take_lt hlt (indexAt_le_length _ _)
    have hback := unitCount_take_indexAt_le (unitCount (cs.take k)) cs
    omega
  · exact heq.symm

/-- Columns and indices of a text belong together: the index of a column is the last one whose characters fit in front
of the column, and counting their units leads back. -/
structure Adjoint (cs : List Char) : Prop where
  le_length : ∀ column, indexAt column cs ≤ cs.length
  fits : ∀ column, (utf16 (cs.take (indexAt column cs))).length ≤ column
  next : ∀ column, indexAt column cs < cs.length → column < (utf16 (cs.take (indexAt column cs + 1))).length
  reached_iff : ∀ k ≤ cs.length, ∀ column, k ≤ indexAt column cs ↔ (utf16 (cs.take k)).length ≤ column
  monotone : Monotone fun column => indexAt column cs
  atEnd_iff : ∀ column, indexAt column cs = cs.length ↔ (utf16 cs).length ≤ column
  back : ∀ k ≤ cs.length, indexAt (unitCount (cs.take k)) cs = k
  /-- The range of a word on a line leads back to the characters of the word. -/
  ranges : ∀ document p, line? document.toList p.line = some cs → ∀ w ∈ Word.at? document p,
    cs.extract (indexAt w.span.start.column cs) (indexAt w.span.stop.column cs) = w.text.toList

theorem indexAt_utf16_adjoint (cs : List Char) : Adjoint cs where
  le_length column := indexAt_le_length column cs
  fits column := by
    rw [length_utf16]
    exact unitCount_take_indexAt_le column cs
  next column hlt := by
    rw [length_utf16]
    by_contra hle
    have hreached := (le_indexAt_iff_take hlt column).2 (Nat.le_of_not_lt hle)
    omega
  reached_iff k hk column := by
    rw [length_utf16]
    exact le_indexAt_iff_take hk column
  monotone column column' h := by
    have hfits := unitCount_take_indexAt_le column cs
    exact (le_indexAt_iff_take (indexAt_le_length column cs) column').2 (Nat.le_trans hfits h)
  atEnd_iff column := by
    have hend := le_indexAt_iff_take (Nat.le_refl cs.length) column
    have hle := indexAt_le_length column cs
    rw [List.take_length] at hend
    rw [length_utf16, ← hend]
    omega
  back _ hk := indexAt_unitCount_take hk
  ranges document p hline w hw := by
    obtain ⟨line, start, stop, hline', hranges, -⟩ := Word.exists_ranges hw
    rw [hline, Option.some.injEq] at hline'
    subst hline'
    have hrun := hranges.run
    have hstop := hrun.stop_le_length
    have hstart := Nat.le_trans (Nat.le_of_lt hrun.start_lt_stop) hstop
    rw [hranges.start, hranges.stop, hranges.text]
    dsimp only
    rw [indexAt_unitCount_take hstart, indexAt_unitCount_take hstop]

/-- Columns inside a pair belong to its character, and columns past the end to the end. -/
example : (List.range 6).map (indexAt · ['a', '😀', 'b']) = [0, 1, 1, 2, 3, 3] := by decide

end ClassAtlas.Text
