/-
One word for all its columns. A word that is found at a position is found from every column of its range, the one
just behind it included, and from no other column of its line; different words of a line have at least one column
between them (`stable_of_at?`). So the cursor may stand anywhere on a word or right behind it when a class is looked up.
-/
import ClassAtlas.Proofs.Definition
import ClassAtlas.Proofs.Word.Range

namespace ClassAtlas.Word

/-- What separates words is in the basic plane. -/
theorem units_of_not_isWordChar {c : Char} (h : isWordChar c = false) : Text.units c = 1 := by
  have hbasic : c.toNat < 0x10000 := by
    rw [isWordChar, Bool.and_eq_false_iff, Bool.not_eq_false', Bool.not_eq_false', List.contains_iff_mem] at h
    rcases h with hblank | hseparator
    · simp only [Text.isBlank, Bool.or_eq_true, Bool.and_eq_true, decide_eq_true_eq, beq_iff_eq] at hblank
      omega
    · have hall : separators.all (·.toNat < 0x10000) = true := by decide
      exact of_decide_eq_true (List.all_eq_true.1 hall c hseparator)
  exact if_pos hbasic

theorem unitCount_take_lt {cs : List Char} {i j : Nat} (hij : i < j) (hj : j ≤ cs.length) :
    Text.unitCount (cs.take i) < Text.unitCount (cs.take j) := by
  obtain ⟨k, rfl⟩ := Nat.exists_eq_add_of_lt hij
  rw [Nat.add_assoc, List.take_add, List.drop_eq_getElem_cons (by omega), List.take_succ_cons, Text.unitCount_append,
    Text.unitCount_cons]
  have hpos := Text.units_pos cs[i]
  omega

/-- A word of a line is told by where it starts and stops. -/
theorem Ranges.eq {line : List Char} {number start stop : Nat} {v w : Word} (hv : Ranges line number start stop v)
    (hw : Ranges line number start stop w) : v = w := by
  obtain ⟨vtext, vstart, vstop⟩ := v
  obtain ⟨wtext, wstart, wstop⟩ := w
  have htext : vtext = wtext := String.toList_injective (hv.text.trans hw.text.symm)
  have hstart : vstart = wstart := hv.start.trans hw.start.symm
  have hstop : vstop = wstop := hv.stop.trans hw.stop.symm
  rw [htext, hstart, hstop]

/-- A word that was found at a position of a line, and the columns of that line. -/
structure Stable (document : String) (p : Position) (line : List Char) (w : Word) : Prop where
  onLine : w.span.start.line = p.line ∧ w.span.stop.line = p.line
  within : w.span.start.column < w.span.stop.column ∧ w.span.stop.column ≤ Text.unitCount line
  found_iff : ∀ column ≤ Text.unitCount line,
    at? document ⟨p.line, column⟩ = some w ↔ w.span.start.column ≤ column ∧ column ≤ w.span.stop.column
  /-- Any other word of the line stops before this one starts, or starts after this one has stopped. -/
  apart : ∀ column v, at? document ⟨p.line, column⟩ = some v → v ≠ w →
    v.span.stop.column < w.span.start.column ∨ w.span.stop.column < v.span.start.column
  declaration : ∀ (i : Index) (column : Nat), w.span.start.column ≤ column → column ≤ w.span.stop.column →
    i.declarationAt document ⟨p.line, column⟩ = i.declarationAt document p

section Found

variable {document : String} {p : Position} {w : Word} (h : at? document p = some w)
include h

theorem at?_of_within {column : Nat} (hstart : w.span.start.column ≤ column) (hstop : column ≤ w.span.stop.column) :
    at? document ⟨p.line, column⟩ = some w := by
  obtain ⟨left, right, hstands, hspan⟩ := at?_eq_some_iff.1 h
  rw [hspan] at hstart hstop
  refine at?_eq_some_iff.2 ⟨left, right, ⟨hstands.line, hstands.ne_nil, hstands.run, hstart, fun c _ => ?_⟩, hspan⟩
  exact Nat.lt_of_le_of_lt hstop (Nat.lt_add_of_pos_right (Text.units_pos c))

/-- A word is found from its range, or past the end of the line that it ends. -/
theorem within_of_at? {line : List Char} (hline : Text.line? document.toList p.line = some line)
    (hcolumn : p.column ≤ Text.unitCount line) :
    w.span.start.column ≤ p.column ∧ p.column ≤ w.span.stop.column := by
  obtain ⟨left, right, hstands, hspan⟩ := at?_eq_some_iff.1 h
  have hwhole := hstands.line
  rw [hline, Option.some.injEq] at hwhole
  rw [hspan]
  refine ⟨hstands.notBefore, ?_⟩
  cases right with
  | nil =>
    rw [hwhole, List.append_nil] at hcolumn
    exact hcolumn
  | cons c r =>
    -- the character behind the word takes one column, and the cursor is not past it
    have hunits := units_of_not_isWordChar (hstands.run.right c rfl)
    have hpast := hstands.notPast c rfl
    rw [hunits] at hpast
    exact Nat.le_of_lt_succ hpast

end Found

theorem apart_of_at? {document : String} {p q : Position} {v w : Word} (hv : at? document p = some v)
    (hw : at? document q = some w) (hpq : p.line = q.line) (hne : v ≠ w) :
    v.span.stop.column < w.span.start.column ∨ w.span.stop.column < v.span.start.column := by
  obtain ⟨line, start, stop, hline, hranges, -⟩ := exists_ranges hv
  obtain ⟨line', start', stop', hline', hranges', -⟩ := exists_ranges hw
  rw [← hpq, hline, Option.some.injEq] at hline'
  subst hline'
  rw [← hpq] at hranges'
  rw [hranges.stop, hranges'.start, hranges'.stop, hranges.start]
  have hlt := hranges.run.start_lt_stop
  have hlt' := hranges'.run.start_lt_stop
  rcases hranges.run.eq_or_apart hranges'.run with ⟨rfl, rfl⟩ | hapart | hapart
  · exact absurd (hranges.eq hranges') hne
  · exact .inl (unitCount_take_lt hapart (Nat.le_of_lt (Nat.lt_of_lt_of_le hlt' hranges'.run.stop_le_length)))
  · exact .inr (unitCount_take_lt hapart (Nat.le_of_lt (Nat.lt_of_lt_of_le hlt hranges.run.stop_le_length)))

/-- A word that is found at a position is the word of exactly the columns of its range. -/
theorem stable_of_at? {document : String} {p : Position} {w : Word} (h : at? document p = some w) :
    ∃ line, Text.line? document.toList p.line = some line ∧ Stable document p line w := by
  obtain ⟨line, start, stop, hline, hranges, -⟩ := exists_ranges h
  have hrun := hranges.run
  refine ⟨line, hline, ⟨by rw [hranges.start], by rw [hranges.stop]⟩, ⟨?_, hranges.within⟩, fun column hcolumn => ?_,
    fun column v hv hne => apart_of_at? hv h rfl hne, fun i column hstart hstop => ?_⟩
  · rw [hranges.start, hranges.stop]
    exact unitCount_take_lt hrun.start_lt_stop hrun.stop_le_length
  · exact ⟨fun hfound => within_of_at? hfound hline hcolumn, fun hrange => at?_of_within h hrange.1 hrange.2⟩
  · rw [Index.declarationAt_eq, Index.declarationAt_eq, at?_of_within h hstart hstop, h]

/-- Of two words on a line, the second with a character of two units, each is found from its own columns. -/
theorem stable_second : at? "pa1 b😀 c" ⟨0, 6⟩ = some ⟨"b😀", ⟨0, 4⟩, ⟨0, 7⟩⟩ ∧
    ∃ line, Text.line? "pa1 b😀 c".toList 0 = some line ∧
      Stable "pa1 b😀 c" ⟨0, 6⟩ line ⟨"b😀", ⟨0, 4⟩, ⟨0, 7⟩⟩ := by
  have hfound : at? "pa1 b😀 c" ⟨0, 6⟩ = some ⟨"b😀", ⟨0, 4⟩, ⟨0, 7⟩⟩ := by decide +kernel
  exact ⟨hfound, stable_of_at? hfound⟩

end ClassAtlas.Word
