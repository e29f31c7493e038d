/-
The lines of a stylesheet, and the positions on them. Wherever a text is cut in two, the place behind
the first part is a position of the text (`hasPosition_positionAfter`), also between a carriage
return and its line feed. One column further than the whole text there is none
(`not_hasPosition_right`).
-/
import ClassAtlas.Proofs.Stylesheet.Place
import Mathlib.Data.List.TakeDrop

namespace ClassAtlas.Stylesheet

/-- The lines of a text, without their ends. Behind the last line end there is always one more line,
which may be empty. -/
def linesOf : List Char → List (List Char)
  | [] => [[]]
  | c :: r =>
    if isNewline c then
      if c = '\r' ∧ r.head? = some '\n' then linesOf r else [] :: linesOf r
    else (linesOf r).modifyHead (c :: ·)

/-- A position of a text: it lies on one of the lines, and not behind the end of that line. -/
def HasPosition (cs : List Char) (p : Position) : Prop :=
  ∃ line ∈ (linesOf cs)[p.line]?, p.column ≤ Text.unitCount line

instance (cs : List Char) (p : Position) : Decidable (HasPosition cs p) :=
  inferInstanceAs (Decidable (∃ line ∈ (linesOf cs)[p.line]?, p.column ≤ Text.unitCount line))

/-! ## Lines and line ends -/

theorem lineEnds_eq_zero_iff (cs : List Char) : lineEnds cs = 0 ↔ ∀ c ∈ cs, isNewline c = false := by
  induction cs with
  | nil => simp [lineEnds]
  | cons c r ih =>
    rw [lineEnds_cons, Nat.add_eq_zero_iff, ih, List.forall_mem_cons]
    constructor
    · rintro ⟨hc, hr⟩
      refine ⟨?_, hr⟩
      -- a carriage return that ends no line has a line feed behind it, which does
      cases hn : isNewline c with
      | false => rfl
      | true =>
        have hreturn : c = '\r' ∧ r.head? = some '\n' := by simpa [hn] using hc
        have := hr '\n' (List.mem_of_mem_head? hreturn.2)
        cases this
    · rintro ⟨hc, hr⟩
      exact ⟨by simp [hc], hr⟩

/-- A text without line ends is its own last line. -/
theorem lastLine_eq_self {cs : List Char} (h : lineEnds cs = 0) : lastLine cs = cs := by
  induction cs using List.reverseRecOn with
  | nil => rfl
  | append_singleton cs c ih =>
    have hall := (lineEnds_eq_zero_iff _).1 h
    have hcs := ih ((lineEnds_eq_zero_iff cs).2 fun d hd => hall d (by simp [hd]))
    rw [lastLine_concat, hall c (by simp), hcs]
    rfl

/-- A character in front belongs to the last line only if there is no other line. -/
theorem lastLine_cons (c : Char) (r : List Char) :
    lastLine (c :: r) = if isNewline c = false ∧ lineEnds r = 0 then c :: r else lastLine r := by
  induction r using List.reverseRecOn with
  | nil => cases hc : isNewline c <;> simp [lastLine, lineEnds, hc]
  | append_singleton r d ih =>
    rw [← List.cons_append, lastLine_concat, lastLine_concat, ih]
    cases hd : isNewline d with
    | true =>
      have hne : lineEnds (r ++ [d]) ≠ 0 := by
        intro h
        have := (lineEnds_eq_zero_iff _).1 h d (by simp)
        rw [hd] at this
        cases this
      simp [hne]
    | false =>
      have hzero : lineEnds (r ++ [d]) = 0 ↔ lineEnds r = 0 := by
        simp only [lineEnds_concat, hd, Bool.false_eq_true, false_and, if_false]
      simp only [hzero, Bool.false_eq_true, if_false]
      split <;> rfl

/-! ## Where the lines are -/

theorem linesOf_ne_nil (cs : List Char) : linesOf cs ≠ [] := by
  induction cs with
  | nil => nofun
  | cons c r ih =>
    rw [linesOf]
    split
    · split
      · exact ih
      · nofun
    · rwa [ne_eq, List.modifyHead_eq_nil_iff]

/-- The line on which a first part of a text ends starts as the last line of that part. It goes no
further if the part is the whole text. -/
theorem getElem?_linesOf_append (a b : List Char) :
    ∃ x, (linesOf (a ++ b))[lineEnds a]? = some (lastLine a ++ x) ∧ (b = [] → x = []) := by
  induction a with
  | nil =>
    obtain ⟨line, rest, hl⟩ := List.exists_cons_of_ne_nil (linesOf_ne_nil b)
    refine ⟨line, by simp [lineEnds, lastLine, hl], ?_⟩
    rintro rfl
    cases hl
    rfl
  | cons c r ih =>
    obtain ⟨x, hx, hb⟩ := ih
    rw [List.cons_append, linesOf, lineEnds_cons, lastLine_cons]
    cases hc : isNewline c with
    | false =>
      -- the line is the same, and has the character in front if it is the first one
      simp only [Bool.false_eq_true, if_false, false_and, Nat.zero_add, List.getElem?_modifyHead, hx, true_and]
      by_cases hz : lineEnds r = 0
      · exact ⟨x, by simp [hz, lastLine_eq_self hz], hb⟩
      · exact ⟨x, by simp [hz], hb⟩
    | true =>
      simp only [if_true, true_and, Bool.true_eq_false, false_and, if_false]
      by_cases hr : c = '\r' ∧ r.head? = some '\n'
      · have hrb : c = '\r' ∧ (r ++ b).head? = some '\n' := by simp [hr.1, hr.2]
        rw [if_pos hrb, if_neg (not_not_intro hr), Nat.zero_add]
        exact ⟨x, hx, hb⟩
      · rw [if_pos hr]
        by_cases hrb : c = '\r' ∧ (r ++ b).head? = some '\n'
        · -- the text is cut between a carriage return and its line feed
          rw [if_pos hrb]
          obtain rfl : r = [] := by
            cases r with
            | nil => rfl
            | cons d r => exact absurd hrb hr
          obtain ⟨rest, rfl⟩ := List.head?_eq_some_iff.1 hrb.2
          obtain ⟨line, lines, hl⟩ := List.exists_cons_of_ne_nil (linesOf_ne_nil rest)
          have hfeed : linesOf ('\n' :: rest) = [] :: linesOf rest := by simp [linesOf, isNewline]
          exact ⟨line, by simp [hfeed, hl, lineEnds, lastLine], fun h => absurd h (List.cons_ne_nil _ _)⟩
        · rw [if_neg hrb]
          exact ⟨x, by rw [Nat.add_comm]; exact hx, hb⟩

/-- Wherever a text is cut, the place behind the first part is a position of the text. -/
theorem hasPosition_positionAfter (a b : List Char) : HasPosition (a ++ b) (positionAfter a) := by
  obtain ⟨x, hx, -⟩ := getElem?_linesOf_append a b
  refine ⟨_, hx, ?_⟩
  rw [Text.unitCount_append]
  exact Nat.le_add_right _ _

/-- The column behind the end of a text is no position of it. -/
theorem not_hasPosition_right (cs : List Char) : ¬ HasPosition cs ((positionAfter cs).right 1) := by
  rintro ⟨line, hl, hc⟩
  obtain ⟨x, hx, hnil⟩ := getElem?_linesOf_append cs []
  rw [List.append_nil, hnil rfl, List.append_nil] at hx
  have hline : lastLine cs = line := Option.some.inj (hx.symm.trans hl)
  rw [← hline] at hc
  exact Nat.not_succ_le_self _ hc

end ClassAtlas.Stylesheet
