/-
Spans as an editor reads them. A stylesheet has all the line ends that an editor counts, and its form feeds
(`lineEnds_eq`). So the span of a rule leads an editor to the rule, and behind its closing bracket, exactly if no
form feed stands before that place; each one before it puts the line one too far down (`editor_reads_spans`).
-/
import ClassAtlas.Proofs.Stylesheet.Lines
import ClassAtlas.Proofs.Stylesheet.Placed
import ClassAtlas.Proofs.Text.EditorLines

namespace ClassAtlas.Stylesheet

open Text (endsLine editorEnds textBefore?)

/-! ## Places in an editor -/

/-- Of the characters that end a line, only the form feed ends none for an editor. -/
theorem isNewline_iff {c : Char} : isNewline c = true ↔ c = '\n' ∨ c = '\r' ∨ c = '\x0c' := by
  simp [isNewline, or_assoc]

theorem endsLine_iff {c : Char} (hfeed : c ≠ '\x0c') (r : List Char) :
    endsLine c r = true ↔ isNewline c = true ∧ ¬ (c = '\r' ∧ r.head? = some '\n') := by
  rw [Text.endsLine_iff, isNewline_iff]
  by_cases hn : c = '\n'
  · simp [hn]
  · by_cases hr : c = '\r'
    · simp [hr]
    · simp [hn, hr, hfeed]

/-- A stylesheet has the line ends that an editor counts, and its form feeds. -/
theorem lineEnds_eq (cs : List Char) : lineEnds cs = editorEnds cs + cs.count '\x0c' := by
  induction cs with
  | nil => rfl
  | cons c r ih =>
    rw [lineEnds_cons, Text.editorEnds_cons, ih, List.count_cons]
    by_cases hfeed : c = '\x0c'
    · subst hfeed
      simp [isNewline, endsLine]
      omega
    · simp only [← endsLine_iff hfeed, beq_iff_eq, hfeed, if_false]
      omega

theorem lineEnds_of_not_mem {cs : List Char} (h : '\x0c' ∉ cs) : lineEnds cs = editorEnds cs := by
  rw [lineEnds_eq, List.count_eq_zero.2 h, Nat.add_zero]

/-- A text without form feeds is what an editor has in front of the place behind it, unless that place is inside
a line end. -/
theorem textBefore?_positionAfter {a b : List Char} (hb : a.getLast? = some '\r' → b.head? ≠ some '\n')
    (hfeed : '\x0c' ∉ a) : textBefore? (positionAfter a) (a ++ b) = some a := by
  induction a with
  | nil => exact Text.textBefore?_start b
  | cons c r ih =>
    have hlines := lineEnds_of_not_mem hfeed
    rw [List.mem_cons, not_or] at hfeed
    obtain ⟨hc, hr⟩ := hfeed
    replace hc : c ≠ '\x0c' := Ne.symm hc
    have happend : endsLine c (r ++ b) = endsLine c r := Text.endsLine_append hb
    have ih := ih (fun h => hb (by rw [List.getLast?_cons, h, Option.getD_some])) hr
    unfold positionAfter at ih ⊢
    rw [lineEnds_of_not_mem hr] at ih
    rw [hlines, Text.editorEnds_cons, lastLine_cons, lineEnds_of_not_mem hr, List.cons_append]
    cases hends : endsLine c r with
    | true =>
      have hnewline : isNewline c = true := ((endsLine_iff hc r).1 hends).1
      rw [if_pos rfl, if_neg fun h => Bool.false_ne_true (h.1.symm.trans hnewline), Nat.add_comm,
        Text.textBefore?_later, happend, hends, if_pos rfl, ih]
      rfl
    | false =>
      rw [if_neg Bool.false_ne_true, Nat.zero_add]
      cases hline : editorEnds r with
      | zero =>
        -- the place is on the first line, so that columns are counted, and no line feed comes behind `c`
        have hnewline : isNewline c = false := by
          rw [Bool.eq_false_iff]
          intro hnewline
          rw [Bool.eq_false_iff, ne_eq, endsLine_iff hc, not_and, not_not] at hends
          obtain ⟨rest, rfl⟩ := List.head?_eq_some_iff.1 (hends hnewline).2
          rw [Text.editorEnds_cons] at hline
          cases (Nat.add_eq_zero_iff.1 hline).1
        have hn : c ≠ '\n' := by rintro rfl; cases hnewline
        have hreturn : c ≠ '\r' := by rintro rfl; cases hnewline
        rw [hline, lastLine_eq_self ((lineEnds_of_not_mem hr).trans hline)] at ih
        rw [if_pos ⟨hnewline, rfl⟩, Text.unitCount_cons, Text.textBefore?_first hn hreturn (Nat.le_add_right _ _),
          Nat.add_sub_cancel_left, ih]
        rfl
      | succ line =>
        rw [if_neg fun h => Nat.succ_ne_zero line h.2, Text.textBefore?_later, happend, hends,
          if_neg Bool.false_ne_true, ← hline, ih]
        rfl

/-- The place behind a text is where an editor finds it exactly if no form feed is in the text. -/
theorem textBefore?_eq_some_iff {a b : List Char} (hb : a.getLast? = some '\r' → b.head? ≠ some '\n') :
    textBefore? (positionAfter a) (a ++ b) = some a ↔ '\x0c' ∉ a := by
  refine ⟨fun h => ?_, textBefore?_positionAfter hb⟩
  have hends : editorEnds a = lineEnds a := Text.editorEnds_of_textBefore? h
  rw [lineEnds_eq] at hends
  exact List.count_eq_zero.1 (by omega)

/-! ## Spans in an editor -/

/-- How an editor reads the span of a rule: what it has in front of the two positions, and on which lines they
are. -/
structure ReadBack (css : List Char) (r : StyleRule) (s : StyleNode) : Prop where
  rule : r = s.rule
  placed : Placed css s
  startLine : r.span.start.line = editorEnds s.before + s.before.count '\x0c'
  start : textBefore? r.span.start css = some s.before ↔ '\x0c' ∉ s.before
  stopLine : s.closer.isSome →
    r.span.stop.line = editorEnds (s.before ++ s.text) + (s.before ++ s.text).count '\x0c'
  stop : s.closer.isSome →
    (textBefore? r.span.stop css = some (s.before ++ s.text) ↔ '\x0c' ∉ s.before ++ s.text)

theorem Placed.readBack {css : List Char} {s : StyleNode} (h : Placed css s) : ReadBack css s.rule s := by
  obtain ⟨after, rfl⟩ := h.text
  obtain ⟨c, r, hfirst, hc⟩ := h.first
  refine ⟨rfl, h, by rw [h.start]; exact lineEnds_eq _, ?_, fun hcloser => ?_, fun hcloser => ?_⟩
  · rw [h.start]
    refine textBefore?_eq_some_iff fun _ hn => ?_
    rw [hfirst, List.cons_append, List.head?_cons, Option.some.injEq] at hn
    rw [hn] at hc
    cases hc
  · rw [(h.closed hcloser).2]
    exact lineEnds_eq _
  · obtain ⟨hlast, hstop⟩ := h.closed hcloser
    rw [hstop, ← List.append_assoc]
    refine textBefore?_eq_some_iff fun hreturn => ?_
    rw [List.getLast?_append, hlast] at hreturn
    cases hreturn

/-- An editor reads every span of a stylesheet as the place of its rule, as far as no form feed stands in front;
each form feed that does puts the line one too far down. -/
theorem editor_reads_spans (css : String) :
    List.Forall₂ (ReadBack css.toList) (rulesOf (scan css)) (notedNodes css) := by
  rw [rulesOf_scan_eq_map, List.forall₂_map_left_iff, List.forall₂_same]
  exact fun s hs => (placed_of_mem hs).readBack

/-- Behind a form feed a rule that is closed starts on a line that an editor does not have; the place in front
of the rule is on the first line. -/
theorem formFeed_misread : ∃ s ∈ notedNodes "\x0c.a\x7b\x7d", s.closer.isSome ∧ s.before = ['\x0c'] ∧
    textBefore? s.rule.span.start "\x0c.a\x7b\x7d".toList = none ∧
    textBefore? ⟨0, 1⟩ "\x0c.a\x7b\x7d".toList = some s.before := by
  decide +kernel

end ClassAtlas.Stylesheet
