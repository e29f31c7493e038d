/-
Where the end of a text lies, told from the text as a whole: behind so many line ends, and so many
UTF-16 units behind the last of them (`positionAfter`). A mark, which is kept up to date character
by character, always lies there (`place_advance`).
-/
import ClassAtlas.Stylesheet.Mark
import ClassAtlas.Stylesheet.Name
import Mathlib.Data.List.Induction

namespace ClassAtlas.Stylesheet

/-- The number of line ends in a text: line feeds, form feeds and carriage returns, but a carriage
return with a line feed right behind it is one line end together with that. -/
def lineEnds : List Char → Nat
  | [] => 0
  | c :: r => (if isNewline c ∧ ¬ (c = '\r' ∧ r.head? = some '\n') then 1 else 0) + lineEnds r

/-- The part of a text behind its last line end. -/
def lastLine (cs : List Char) : List Char :=
  (cs.reverse.takeWhile fun c => !isNewline c).reverse

/-- The position right behind a text. -/
def positionAfter (cs : List Char) : Position :=
  ⟨lineEnds cs, Text.unitCount (lastLine cs)⟩

theorem lineEnds_cons (c : Char) (r : List Char) :
    lineEnds (c :: r) = (if isNewline c ∧ ¬ (c = '\r' ∧ r.head? = some '\n') then 1 else 0) + lineEnds r := rfl

theorem lastLine_concat (cs : List Char) (c : Char) :
    lastLine (cs ++ [c]) = if isNewline c then [] else lastLine cs ++ [c] := by
  unfold lastLine
  rw [List.reverse_append, List.reverse_singleton, List.singleton_append, List.takeWhile_cons]
  cases isNewline c <;> simp

/-- A line feed behind a carriage return ends no further line. -/
theorem lineEnds_concat (cs : List Char) (c : Char) :
    lineEnds (cs ++ [c]) =
      if isNewline c ∧ ¬ (c = '\n' ∧ cs.getLast? = some '\r') then lineEnds cs + 1 else lineEnds cs := by
  induction cs with
  | nil => simp [lineEnds]
  | cons d r ih =>
    cases r with
    | nil =>
      -- only where the two are joined can a carriage return lose its line end to a line feed
      by_cases h : d = '\r' ∧ c = '\n'
      · obtain ⟨rfl, rfl⟩ := h
        rfl
      · have h' : ¬ (c = '\n' ∧ d = '\r') := fun hc => h hc.symm
        simp only [List.singleton_append, lineEnds, List.head?_cons, Option.some.injEq, h, not_false_eq_true,
          and_true, List.head?_nil, reduceCtorEq, and_false, List.getLast?_singleton, h']
        cases isNewline c <;> simp
    | cons e r =>
      rw [List.cons_append, lineEnds_cons d, ih, lineEnds_cons d, List.getLast?_cons_cons]
      by_cases hc : isNewline c ∧ ¬ (c = '\n' ∧ (e :: r).getLast? = some '\r')
      · rw [if_pos hc, if_pos hc]; rfl
      · rw [if_neg hc, if_neg hc]; rfl

theorem advance_concat (cs : List Char) (c : Char) :
    Mark.start.advance (cs ++ [c]) = (Mark.start.advance cs).step c := by
  rw [Mark.advance_append]; rfl

/-- Reading a text from the start leads right behind it. -/
theorem advance_start (cs : List Char) :
    Mark.start.advance cs = ⟨positionAfter cs, cs.getLast? == some '\r'⟩ := by
  induction cs using List.reverseRecOn with
  | nil => rfl
  | append_singleton cs c ih =>
    unfold positionAfter at ih ⊢
    rw [advance_concat, ih, lineEnds_concat, lastLine_concat, List.getLast?_concat]
    unfold Mark.step
    by_cases hn : c = '\n'
    · subst hn
      cases hr : cs.getLast? == some '\r' with
      | true =>
        have hl : cs.getLast? = some '\r' := by simpa using hr
        -- the line was ended by the carriage return, so the column is zero already
        have hlast : lastLine cs = [] := by
          obtain ⟨ds, rfl⟩ := List.getLast?_eq_some_iff.1 hl
          rw [lastLine_concat]
          rfl
        simp [isNewline, hl, hlast]
      | false =>
        have hl : cs.getLast? ≠ some '\r' := by simpa using hr
        simp [isNewline, hl]
    · by_cases hr : c = '\r'
      · subst hr
        simp [isNewline]
      · by_cases hf : c = '\x0c'
        · subst hf
          simp [isNewline]
        · simp [isNewline, hn, hr, hf, Position.right]

theorem place_advance (cs : List Char) : (Mark.start.advance cs).place = positionAfter cs := by
  rw [advance_start]

/-- Behind a character that takes one unit and ends no line. -/
theorem positionAfter_concat {cs : List Char} {c : Char} (hn : isNewline c = false) (hu : Text.units c = 1) :
    positionAfter (cs ++ [c]) = (positionAfter cs).right 1 := by
  unfold positionAfter
  rw [lineEnds_concat, lastLine_concat]
  simp [hn, hu, Position.right]

end ClassAtlas.Stylesheet
