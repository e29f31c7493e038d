/-
The range of a word. A column falls at a character of the line, and the word is looked for around that character, or
around the one before it if that character belongs to no word (`anchor`). What is found is the longest run of word
characters there, and its range is from the column of the first of them to the column behind the last
(`at?_maximal_run`).
-/
import ClassAtlas.Proofs.Text.Utf16
import ClassAtlas.Proofs.Word

namespace ClassAtlas.Word

/-! ## Runs by index -/

/-- Whether a word character stands at an index of a line. -/
def isWordAt (cs : List Char) (i : Nat) : Bool :=
  cs[i]?.any isWordChar

/-- The characters of a line from one index up to another are a longest run of word characters. -/
structure IsRun (line : List Char) (start stop : Nat) : Prop where
  start_lt_stop : start < stop
  stop_le_length : stop ≤ line.length
  all : ∀ i, start ≤ i → i < stop → isWordAt line i = true
  before : ∀ i, i + 1 = start → isWordAt line i = false
  behind : isWordAt line stop = false

theorem isWordAt_eq_false_iff {cs : List Char} {i : Nat} :
    isWordAt cs i = false ↔ ∀ c ∈ cs[i]?, isWordChar c = false := by
  unfold isWordAt
  cases cs[i]? <;> simp

theorem isRun_append {left run right : List Char} (hne : run ≠ []) (h : LongestRun isWordChar left run right) :
    IsRun (left ++ run ++ right) left.length (left ++ run).length := by
  have hpos := List.length_pos_iff.2 hne
  refine ⟨by rw [List.length_append]; omega, by simp, fun i hstart hstop => ?_, fun i hi => ?_, ?_⟩
  · obtain ⟨k, rfl⟩ := Nat.exists_eq_add_of_le hstart
    have hk : k < run.length := by rw [List.length_append] at hstop; omega
    rw [isWordAt, List.getElem?_append_left hstop, List.getElem?_append_right (Nat.le_add_right _ _),
      Nat.add_sub_cancel_left, List.getElem?_eq_getElem hk, Option.any_some]
    exact h.all _ (List.getElem_mem hk)
  · rw [isWordAt_eq_false_iff, List.append_assoc, List.getElem?_append_left (by omega)]
    intro c hc
    refine h.left c ?_
    rwa [List.getLast?_eq_getElem?, ← hi, Nat.add_sub_cancel]
  · rw [isWordAt_eq_false_iff, List.getElem?_append_right (Nat.le_refl _), Nat.sub_self, ← List.head?_eq_getElem?]
    exact h.right

theorem IsRun.stop_lt {line : List Char} {start stop start' stop' : Nat} (h : IsRun line start stop)
    (h' : IsRun line start' stop') (hstart : start < start') : stop < start' := by
  by_contra hstop
  -- otherwise the character in front of the second run is one of the first
  have hin := h.all (start' - 1) (by omega) (by omega)
  rw [h'.before (start' - 1) (by omega)] at hin
  cases hin

theorem IsRun.stop_le {line : List Char} {start stop stop' : Nat} (h : IsRun line start stop)
    (h' : IsRun line start stop') : stop' ≤ stop := by
  by_contra hstop
  have hin := h'.all stop (Nat.le_of_lt h.start_lt_stop) (by omega)
  rw [h.behind] at hin
  cases hin

/-- Two longest runs are the same, or something stands between them. -/
theorem IsRun.eq_or_apart {line : List Char} {start stop start' stop' : Nat} (h : IsRun line start stop)
    (h' : IsRun line start' stop') : (start = start' ∧ stop = stop') ∨ stop < start' ∨ stop' < start := by
  rcases Nat.lt_trichotomy start start' with hlt | rfl | hlt
  · exact .inr (.inl (h.stop_lt h' hlt))
  · exact .inl ⟨rfl, Nat.le_antisymm (h'.stop_le h) (h.stop_le h')⟩
  · exact .inr (.inr (h'.stop_lt h hlt))

/-! ## The word at a position -/

/-- The index around which a word is looked for: the one at which the column falls, if a word character stands there,
and otherwise the one before it. -/
def anchor (line : List Char) (index : Nat) : Nat :=
  if isWordAt line index then index else index - 1

/-- A word is what stands on a line from one index up to another, a longest run of word characters, and its range is
that of the columns of these two. -/
structure Ranges (line : List Char) (number start stop : Nat) (w : Word) : Prop where
  run : IsRun line start stop
  text : w.text.toList = line.extract start stop
  ne_empty : w.text ≠ ""
  all : ∀ c ∈ w.text.toList, isWordChar c = true
  start : w.span.start = ⟨number, Text.unitCount (line.take start)⟩
  stop : w.span.stop = ⟨number, Text.unitCount (line.take stop)⟩
  within : w.span.stop.column ≤ Text.unitCount line
  /-- An editor that cuts the line at the two columns gets the word. -/
  cut : (Text.utf16 line).extract w.span.start.column w.span.stop.column = Text.utf16 w.text.toList

/-- Where a column falls in a run or at its end, the word is looked for around a character of the run. -/
theorem IsRun.anchor_within {line : List Char} {start stop index : Nat} (h : IsRun line start stop)
    (hstart : start ≤ index) (hstop : index ≤ stop) :
    start ≤ anchor line index ∧ anchor line index < stop := by
  have hlt := h.start_lt_stop
  unfold anchor
  split
  · next hword =>
    refine ⟨hstart, Nat.lt_of_le_of_ne hstop ?_⟩
    rintro rfl
    rw [h.behind] at hword
    cases hword
  · next hword =>
    have hne : index ≠ start := by
      rintro rfl
      exact hword (h.all index hstart hlt)
    omega

/-- A word that is found is a longest run of the line, and the column falls in it or at its end. -/
theorem exists_ranges {document : String} {p : Position} {w : Word} (h : at? document p = some w) :
    ∃ line start stop, Text.line? document.toList p.line = some line ∧ Ranges line p.line start stop w ∧
      start ≤ Text.indexAt p.column line ∧ Text.indexAt p.column line ≤ stop := by
  obtain ⟨left, right, hstands, hspan⟩ := at?_eq_some_iff.1 h
  have hleft : (left ++ w.text.toList ++ right).take left.length = left := by
    rw [List.append_assoc, List.take_left]
  refine ⟨_, left.length, (left ++ w.text.toList).length, hstands.line,
    ⟨isRun_append hstands.ne_nil hstands.run, (Text.extract_middle _ _ _).symm, ?_, hstands.run.all, ?_, ?_, ?_, ?_⟩,
    ?_, ?_⟩
  · rintro hempty
    exact hstands.ne_nil (by rw [hempty, String.toList_empty])
  · rw [hspan, hleft]
  · rw [hspan, List.take_left]
  · rw [hspan, Text.unitCount_append _ right]
    exact Nat.le_add_right _ _
  · rw [hspan]
    exact Text.extract_utf16 left w.text.toList right
  · rw [List.append_assoc]
    exact (Text.le_indexAt_iff _ _ _).2 hstands.notBefore
  · exact (Text.indexAt_le_iff _ _ _).2 hstands.notPast

theorem isEmpty_takeWhile (cs : List Char) : (cs.takeWhile isWordChar).isEmpty = !cs.head?.any isWordChar := by
  cases cs with
  | nil => rfl
  | cons c r => cases hc : isWordChar c <;> simp [hc]

theorem isEmpty_endingRun (cs : List Char) : (endingRun cs).isEmpty = !cs.getLast?.any isWordChar := by
  rw [endingRun, List.isEmpty_reverse, isEmpty_takeWhile, List.head?_reverse]

/-- A word is found where a word character stands, and right behind one. -/
theorem isSome_onLine_iff {cs : List Char} {index : Nat} (hi : index ≤ cs.length) :
    (onLine cs index).isSome ↔ isWordAt cs index ∨ 0 < index ∧ isWordAt cs (index - 1) := by
  have hlast : (cs.take index).getLast?.any isWordChar = true ↔ 0 < index ∧ isWordAt cs (index - 1) = true := by
    cases index with
    | zero => simp
    | succ n => simp [isWordAt, List.getLast?_take, List.getElem?_eq_getElem (show n < cs.length by omega)]
  unfold onLine
  dsimp only
  rw [isEmpty_endingRun, isEmpty_takeWhile, List.head?_drop, ← hlast]
  change _ ↔ cs[index]?.any isWordChar = true ∨ _
  cases cs[index]?.any isWordChar <;> cases (cs.take index).getLast?.any isWordChar <;> simp

/-- What is found at a column of a line. -/
structure FoundOn (line : List Char) (p : Position) (found : Option Word) : Prop where
  falls : Text.FallsAt p.column line (Text.indexAt p.column line)
  isSome_iff : found.isSome ↔ isWordAt line (Text.indexAt p.column line) ∨
    0 < Text.indexAt p.column line ∧ isWordAt line (Text.indexAt p.column line - 1)
  word : ∀ w ∈ found, ∃ start stop, Ranges line p.line start stop w ∧
    start ≤ anchor line (Text.indexAt p.column line) ∧ anchor line (Text.indexAt p.column line) < stop

/-- The word at a position, told from the position's line. -/
structure Ranged (document : String) (p : Position) : Prop where
  beyond : Text.line? document.toList p.line = none → at? document p = none
  line : ∀ line, Text.line? document.toList p.line = some line → FoundOn line p (at? document p)

/-- What is found at a position is the longest run of word characters around it, with its range in UTF-16 units. -/
theorem at?_maximal_run (document : String) (p : Position) : Ranged document p := by
  refine ⟨fun hline => by rw [at?, hline]; rfl, fun line hline => ?_⟩
  have hfalls := Text.fallsAt_indexAt p.column line
  refine ⟨hfalls, ?_, fun w hw => ?_⟩
  · rw [← isSome_onLine_iff hfalls.le_length, at?, hline]
    simp only [Option.bind_eq_bind, Option.bind_some]
    cases onLine line (Text.indexAt p.column line) <;> rfl
  · obtain ⟨line', start, stop, hline', hranges, hstart, hstop⟩ := exists_ranges hw
    rw [hline, Option.some.injEq] at hline'
    subst hline'
    exact ⟨start, stop, hranges, hranges.run.anchor_within hstart hstop⟩

end ClassAtlas.Word
