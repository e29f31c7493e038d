/-
Columns and indices. The index that belongs to a column is told by comparing it with the parts of a
text: it has reached the end of the first part exactly if the column has (`le_indexAt_iff`), and it
is past that end exactly if the column is past the character that follows (`indexAt_le_iff`). So an index into
a text is one into a first part of it, or one into the rest, which columns count from the end of the first part
(`indexAt_append_of_lt`, `indexAt_append_of_le`). All in all it is the index of the character that holds the unit at
the column (`fallsAt_indexAt`).
-/
import ClassAtlas.Text.Units

namespace ClassAtlas.Text

theorem indexAt_le_length (column : Nat) (cs : List Char) : indexAt column cs ≤ cs.length := by
  induction cs generalizing column with
  | nil => exact Nat.le_refl 0
  | cons c r ih =>
    unfold indexAt
    split
    · exact Nat.zero_le _
    · exact Nat.succ_le_succ (ih _)

/-- The index has reached the end of a first part exactly if the column has. -/
theorem le_indexAt_iff (column : Nat) (a b : List Char) :
    a.length ≤ indexAt column (a ++ b) ↔ unitCount a ≤ column := by
  induction a generalizing column with
  | nil => simp
  | cons c r ih =>
    have hc := units_pos c
    simp only [List.length_cons, List.cons_append, unitCount_cons, indexAt]
    split
    · omega
    · have := ih (column - units c)
      omega

/-- The index is not past a first part exactly if the column is before the end of the character
that follows, should there be one. -/
theorem indexAt_le_iff (column : Nat) (a b : List Char) :
    indexAt column (a ++ b) ≤ a.length ↔ ∀ c ∈ b.head?, column < unitCount a + units c := by
  induction a generalizing column with
  | nil =>
    cases b with
    | nil => simp [indexAt]
    | cons d s =>
      simp only [List.nil_append, List.length_nil, unitCount_nil, Nat.zero_add, List.head?_cons,
        Option.mem_some_iff, forall_eq', indexAt]
      split <;> omega
  | cons c r ih =>
    simp only [List.length_cons, List.cons_append, unitCount_cons, indexAt]
    split
    · simp only [Nat.zero_le, true_iff]
      intro d _
      omega
    · rw [Nat.add_le_add_iff_right, ih (column - units c)]
      constructor
      · intro h d hd
        have := h d hd
        omega
      · intro h d hd
        have := h d hd
        omega

/-- Past a first part, a column counts from the end of that part. -/
theorem indexAt_append_of_le {column : Nat} {a : List Char} (h : unitCount a ≤ column) (b : List Char) :
    indexAt column (a ++ b) = a.length + indexAt (column - unitCount a) b := by
  induction a generalizing column with
  | nil => simp
  | cons c r ih =>
    rw [unitCount_cons] at h
    have hcolumn : column - units c - unitCount r = column - (units c + unitCount r) := by omega
    rw [List.cons_append, indexAt, if_neg (by omega), ih (by omega), hcolumn, List.length_cons, unitCount_cons]
    omega

/-- What follows the character behind a first part does not matter to columns that are not past it. -/
theorem indexAt_append_of_lt {column : Nat} {a b : List Char}
    (h : ∀ c ∈ b.head?, column < unitCount a + units c) : indexAt column (a ++ b) = indexAt column a := by
  induction a generalizing column with
  | nil =>
    cases b with
    | nil => rfl
    | cons c r =>
      have hc := h c rfl
      rw [unitCount_nil, Nat.zero_add] at hc
      rw [List.nil_append, indexAt, indexAt, if_pos hc]
  | cons c r ih =>
    rw [List.cons_append, indexAt, indexAt]
    by_cases hcolumn : column < units c
    · rw [if_pos hcolumn, if_pos hcolumn]
    · rw [if_neg hcolumn, if_neg hcolumn, ih]
      intro d hd
      have := h d hd
      rw [unitCount_cons] at this
      omega

/-- Where a column falls: what stands in front of the index ends no later than the column, and the character at the
index ends behind it. Past the last character the index is at the end. -/
structure FallsAt (column : Nat) (cs : List Char) (i : Nat) : Prop where
  le_length : i ≤ cs.length
  notBefore : unitCount (cs.take i) ≤ column
  notPast : ∀ c ∈ cs[i]?, column < unitCount (cs.take i) + units c
  pastEnd : unitCount cs ≤ column → i = cs.length

theorem fallsAt_indexAt (column : Nat) (cs : List Char) : FallsAt column cs (indexAt column cs) := by
  have hle := indexAt_le_length column cs
  have hlength : (cs.take (indexAt column cs)).length = indexAt column cs := List.length_take_of_le hle
  refine ⟨hle, ?_, fun c hc => ?_, fun h => ?_⟩
  · rw [← le_indexAt_iff column _ (cs.drop (indexAt column cs)), List.take_append_drop]
    exact Nat.le_of_eq hlength
  · have hbehind := indexAt_le_iff column (cs.take (indexAt column cs)) (cs.drop (indexAt column cs))
    rw [List.take_append_drop, List.head?_drop] at hbehind
    exact hbehind.1 (Nat.le_of_eq hlength.symm) c hc
  · have hend := (le_indexAt_iff column cs []).2 h
    rw [List.append_nil] at hend
    exact Nat.le_antisymm hle hend

end ClassAtlas.Text
