/-
Words by lines. A word is found on the line of the position as if that line were the document. These are the lines
of the document; with the lines that an editor has, the same is right for all positions exactly if every carriage
return on its own has no word in front of it, and no word anywhere behind it (`at?_eq_inLines`).
-/
import ClassAtlas.Proofs.Text.Returns
import ClassAtlas.Proofs.Word
import Mathlib.Data.List.Basic

namespace ClassAtlas.Word

/-! ## One line -/

/-- The word at a column of a line: the number of units before it, and its text. -/
def foundIn (line : List Char) (column : Nat) : Option (Nat × List Char) :=
  onLine line (Text.indexAt column line)

/-- A word that is found on a line, as a word of a document with that line. -/
def onNumber (n : Nat) (found : Nat × List Char) : Word :=
  ⟨String.ofList found.2, ⟨n, found.1⟩, (⟨n, found.1⟩ : Position).right (Text.unitCount found.2)⟩

theorem onNumber_injective (n : Nat) : Function.Injective (onNumber n) := by
  rintro ⟨column, word⟩ ⟨column', word'⟩ h
  simp only [onNumber, Word.mk.injEq, Span.mk.injEq, Position.mk.injEq, true_and] at h
  rw [String.ofList_injective h.1, h.2.1]

theorem foundIn_eq_some_iff {line : List Char} {column start : Nat} {word : List Char} :
    foundIn line column = some (start, word) ↔
      ∃ left right, line = left ++ word ++ right ∧ word ≠ [] ∧ LongestRun isWordChar left word right ∧
        Text.unitCount left ≤ column ∧
        (∀ c ∈ right.head?, column < Text.unitCount (left ++ word) + Text.units c) ∧ start = Text.unitCount left := by
  rw [foundIn, onLine_eq_some_iff (Text.indexAt_le_length _ _)]
  refine exists_congr fun left => exists_congr fun right => and_congr_right fun hline => ?_
  rw [hline, Text.indexAt_le_iff, List.append_assoc, Text.le_indexAt_iff]

theorem foundIn_eq_none {line : List Char} (h : ∀ c ∈ line, isWordChar c = false) (column : Nat) :
    foundIn line column = none := by
  rw [Option.eq_none_iff_forall_ne_some]
  rintro ⟨start, word⟩ hfound
  obtain ⟨left, right, rfl, hne, hrun, -⟩ := foundIn_eq_some_iff.1 hfound
  obtain ⟨c, word, rfl⟩ := List.exists_cons_of_ne_nil hne
  have hc := hrun.all c List.mem_cons_self
  rw [h c (by simp)] at hc
  cases hc

/-- A line with a word character has a word at the column of that character. -/
theorem exists_foundIn {line : List Char} (h : ∃ c ∈ line, isWordChar c = true) :
    ∃ column found, foundIn line column = some found := by
  obtain ⟨c, hc, hword⟩ := h
  obtain ⟨x, z, rfl⟩ := List.append_of_mem hc
  have hindex : Text.indexAt (Text.unitCount x) (x ++ c :: z) = x.length := by
    rw [Text.indexAt_append_of_le (Nat.le_refl _), Nat.sub_self, Text.indexAt, if_pos (Text.units_pos c),
      Nat.add_zero]
  refine ⟨Text.unitCount x, ?_⟩
  rw [foundIn, hindex, onLine, List.drop_left, List.takeWhile_cons_of_pos hword, List.isEmpty_cons, Bool.and_false,
    if_neg Bool.false_ne_true]
  exact ⟨_, rfl⟩

/-- Words are found alike on two lines. -/
def SameWords (l m : List Char) : Prop :=
  ∀ column, foundIn l column = foundIn m column

/-- A word does not reach into what has no word characters. -/
theorem exists_rest {l z left word right : List Char} (h : l ++ z = left ++ word ++ right) (hne : word ≠ [])
    (hall : ∀ c ∈ word, isWordChar c = true) (hz : ∀ c ∈ z, isWordChar c = false) :
    ∃ rest, l = left ++ word ++ rest ∧ right = rest ++ z := by
  rcases List.append_eq_append_iff.1 h with ⟨s, hs, rfl⟩ | hrest
  · rcases List.eq_nil_or_concat' s with rfl | ⟨s, e, rfl⟩
    · exact ⟨[], by rw [hs, List.append_nil, List.append_nil], rfl⟩
    · -- the last character of the word would be there
      obtain ⟨w, d, rfl⟩ := (List.eq_nil_or_concat' word).resolve_left hne
      rw [← List.append_assoc, ← List.append_assoc] at hs
      cases (List.append_inj' hs rfl).2
      have he := hall e (by simp)
      rw [hz e (by simp)] at he
      cases he
  · exact hrest

/-- What has no word characters does not matter behind a line that ends with none. -/
theorem sameWords_append {l z : List Char} (hl : ∀ c ∈ l.getLast?, isWordChar c = false)
    (hz : ∀ c ∈ z, isWordChar c = false) : SameWords (l ++ z) l := by
  intro column
  ext ⟨start, word⟩
  rw [foundIn_eq_some_iff, foundIn_eq_some_iff]
  constructor
  · rintro ⟨left, right, hline, hne, hrun, hbefore, hpast, hstart⟩
    obtain ⟨rest, rfl, rfl⟩ := exists_rest hline hne hrun.all hz
    have hhead : ∀ c ∈ rest.head?, c ∈ (rest ++ z).head? := by
      intro c hc
      rw [List.head?_append, Option.mem_def.1 hc]
      rfl
    exact ⟨left, rest, rfl, hne, ⟨hrun.all, hrun.left, fun c hc => hrun.right c (hhead c hc)⟩, hbefore,
      fun c hc => hpast c (hhead c hc), hstart⟩
  · rintro ⟨left, right, rfl, hne, hrun, hbefore, hpast, hstart⟩
    cases right with
    | nil =>
      obtain ⟨w, d, rfl⟩ := (List.eq_nil_or_concat' word).resolve_left hne
      have hd := hrun.all d (by simp)
      rw [hl d (by simp)] at hd
      cases hd
    | cons c r =>
      exact ⟨left, c :: r ++ z, List.append_assoc _ _ _, hne, ⟨hrun.all, hrun.left, hrun.right⟩, hbefore, hpast,
        hstart⟩

/-- At the end of a line the word that it ends with is found, but not with anything behind the line. -/
theorem SameWords.getLast? {l z : List Char} (h : SameWords (l ++ z) l) (hz : z ≠ []) :
    ∀ c ∈ l.getLast?, isWordChar c = false := by
  obtain ⟨left, hl, hall, hleft⟩ := exists_endingRun l
  by_cases hne : endingRun l = []
  · rw [hne, List.append_nil] at hl
    rwa [hl]
  generalize endingRun l = run at hl hall hne
  subst hl
  have hcolumn : Text.unitCount left ≤ Text.unitCount (left ++ run ++ z) := by
    rw [Text.unitCount_append, Text.unitCount_append]
    omega
  have hfound : foundIn (left ++ run) (Text.unitCount (left ++ run ++ z)) = some (Text.unitCount left, run) :=
    foundIn_eq_some_iff.2
      ⟨left, [], (List.append_nil _).symm, hne, ⟨hall, hleft, by simp⟩, hcolumn, by simp, rfl⟩
  -- the column is past all that stands behind such a run
  rw [← h, foundIn_eq_some_iff] at hfound
  obtain ⟨left', right, hline, -, -, -, hpast, hstart⟩ := hfound
  have hcount := congrArg Text.unitCount hline
  simp only [Text.unitCount_append] at hcount hpast
  cases right with
  | nil =>
    obtain ⟨c, z, rfl⟩ := List.exists_cons_of_ne_nil hz
    have hc := Text.units_pos c
    simp only [Text.unitCount_cons, Text.unitCount_nil] at hcount
    omega
  | cons c r =>
    have hlt := hpast c rfl
    rw [Text.unitCount_cons] at hcount
    omega

/-! ## The lines of a document -/

theorem at?_eq (document : String) (p : Position) :
    at? document p = (foundIn ((Text.lines document.toList).getD p.line []) p.column).map (onNumber p.line) := by
  rw [at?, Text.line?, List.getD_eq_getElem?_getD]
  cases (Text.lines document.toList)[p.line]? with
  | none => rfl
  | some line =>
    simp only [Option.bind_eq_bind, Option.bind_some, Option.getD_some, foundIn]
    cases onLine line (Text.indexAt p.column line) <;> rfl

/-- The word at a column of a document of one line. -/
def alone (line : List Char) (column : Nat) : Option Word :=
  at? (String.ofList line) ⟨0, column⟩

/-- A word of a single line, moved to the line with some number. -/
def moved (n : Nat) (w : Word) : Word :=
  ⟨w.text, ⟨n, w.span.start.column⟩, ⟨n, w.span.stop.column⟩⟩

/-- The word at a position, by lines: it is found on the line of the position alone, if there is one. -/
def inLines (lines : List (List Char)) (p : Position) : Option Word :=
  lines[p.line]?.bind fun line => (alone line p.column).map (moved p.line)

theorem inLines_eq {lines : List (List Char)} {p : Position} (h : '\n' ∉ lines.getD p.line []) :
    inLines lines p = (foundIn (lines.getD p.line []) p.column).map (onNumber p.line) := by
  rw [List.getD_eq_getElem?_getD] at h ⊢
  rw [inLines]
  cases hline : lines[p.line]? with
  | none => rfl
  | some line =>
    rw [hline, Option.getD_some] at h
    rw [Option.bind_some, Option.getD_some, alone, at?_eq, String.toList_ofList, Text.getD_lines_of_not_mem h,
      Option.map_map]
    rfl

/-- Every carriage return on its own has no word in front of it, and no word anywhere behind it. -/
def WordlessReturns (cs : List Char) : Prop :=
  ∀ a b, cs = a ++ '\r' :: b → b.head? ≠ some '\n' →
    (∀ c ∈ a.getLast?, isWordChar c = false) ∧ ∀ c ∈ b, isWordChar c = false

/-- A line ends with a word exactly if the text up to its end does. -/
theorem endsWordless_append {y : List Char} (hy : Text.Closed y) (l : List Char) :
    (∀ c ∈ (y ++ l).getLast?, isWordChar c = false) ↔ ∀ c ∈ l.getLast?, isWordChar c = false := by
  rw [List.getLast?_append]
  cases l.getLast? with
  | some c => rfl
  | none =>
    rw [Option.none_or]
    refine iff_of_true (fun c hc => ?_) fun c hc => absurd hc (Option.not_mem_none c)
    rw [hy c hc]
    decide

/-- It is enough to look at the first such return. -/
theorem wordlessReturns_iff {a b : List Char} (ha : Text.Paired a) (hb : b.head? ≠ some '\n') :
    WordlessReturns (a ++ '\r' :: b) ↔
      (∀ c ∈ a.getLast?, isWordChar c = false) ∧ ∀ c ∈ b, isWordChar c = false := by
  refine ⟨fun h => h a b rfl hb, fun h x y hxy hy => ?_⟩
  rcases List.append_eq_append_iff.1 hxy with ⟨s, rfl, hs⟩ | ⟨s, rfl, hs⟩
  · -- a later return is in what has no word characters
    rcases List.cons_eq_append_iff.1 hs with ⟨rfl, hby⟩ | ⟨s, rfl, rfl⟩
    · cases hby
      rwa [List.append_nil]
    · refine ⟨fun c hc => ?_, fun c hc => h.2 c (by simp [hc])⟩
      rw [List.getLast?_append, List.getLast?_cons, Option.some_or, ← List.getLast?_cons] at hc
      rcases List.mem_cons.1 (List.mem_of_getLast? hc) with rfl | hc
      · decide
      · exact h.2 c (List.mem_append_left _ hc)
  · -- an earlier one has its line feed
    rcases List.cons_eq_append_iff.1 hs with ⟨rfl, hby⟩ | ⟨s, rfl, rfl⟩
    · cases hby
      rwa [List.append_nil] at h
    · have hhead := ha x s rfl
      exact absurd (by rw [List.head?_append, hhead]; rfl) hy

/-- The lines of a document and those of an editor have the same words exactly if no word is next to a return on
its own, or behind it. -/
theorem sameWords_iff (cs : List Char) :
    (∀ n, SameWords ((Text.lines cs).getD n []) ((Text.editorLines cs).getD n [])) ↔ WordlessReturns cs := by
  rcases Text.paired_or_exists cs with hcs | ⟨a, b, rfl, ha, hb⟩
  · refine iff_of_true (fun n column => ?_) fun a b hab hb => absurd (hcs a b hab) hb
    rw [Text.getD_editorLines_of_paired hcs]
  rw [wordlessReturns_iff ha hb]
  obtain ⟨y, l, rfl, hy, hbroken⟩ := Text.exists_brokenAt ha hb
  rw [endsWordless_append hy]
  constructor
  · intro h
    have hk := h ((y ++ l).count '\n')
    rw [hbroken.line, hbroken.editorLine] at hk
    refine ⟨hk.getLast? (List.cons_ne_nil _ _), ?_⟩
    by_contra hword
    simp only [not_forall, Bool.not_eq_false, exists_prop] at hword
    -- the last of the editor's lines with a word has one more line of the document in front of it
    obtain ⟨n, hmem, hlater⟩ := Text.exists_last_editorLine (by decide) (by decide) hword
    obtain ⟨column, found, hfound⟩ := exists_foundIn hmem
    have hn := h ((y ++ l).count '\n' + 1 + n) column
    rw [hbroken.later, hbroken.editorLater, hfound, foundIn_eq_none (hlater (n + 1) (Nat.lt_succ_self n))] at hn
    cases hn
  · rintro ⟨hlast, hword⟩ n
    rcases Nat.lt_trichotomy n ((y ++ l).count '\n') with hn | rfl | hn
    · rw [Text.getD_editorLines_of_lt ha _ hn]
      exact fun _ => rfl
    · rw [hbroken.line, hbroken.editorLine]
      exact sameWords_append hlast
        (List.forall_mem_cons.2 ⟨by decide, fun c hc => hword c (Text.mem_of_mem_lines hc).1⟩)
    · obtain ⟨m, rfl⟩ := Nat.exists_eq_add_of_le hn
      rw [Nat.succ_eq_add_one, hbroken.later, hbroken.editorLater]
      intro column
      rw [foundIn_eq_none fun c hc => hword c (Text.mem_of_mem_lines hc).1,
        foundIn_eq_none fun c hc => hword c (Text.mem_of_mem_editorLines hc).1]

/-- How a document is read by lines. -/
structure ReadByLines (document : String) : Prop where
  own : ∀ p, at? document p = inLines (Text.lines document.toList) p
  beyond : ∀ p, (Text.editorLines document.toList).length ≤ p.line → at? document p = none
  /-- The lines in front of the first carriage return on its own are those of an editor. -/
  before : ∀ a b, document.toList = a ++ b → Text.Paired a → ∀ p, p.line < a.count '\n' →
    at? document p = inLines (Text.editorLines document.toList) p
  editor : (∀ p, at? document p = inLines (Text.editorLines document.toList) p) ↔
    WordlessReturns document.toList

/-- A word is found as it is found on its line alone, for the lines of the document; for those of an editor as far as
the carriage returns allow it. -/
theorem at?_eq_inLines (document : String) : ReadByLines document := by
  have hown : ∀ p, at? document p = inLines (Text.lines document.toList) p := by
    intro p
    rw [at?_eq, inLines_eq fun h => (Text.mem_of_mem_lines h).2 rfl]
  have heditor : ∀ p, at? document p = inLines (Text.editorLines document.toList) p ↔
      foundIn ((Text.lines document.toList).getD p.line []) p.column =
        foundIn ((Text.editorLines document.toList).getD p.line []) p.column := by
    intro p
    rw [at?_eq, inLines_eq fun h => (Text.mem_of_mem_editorLines h).2 rfl]
    exact (Option.map_injective (onNumber_injective p.line)).eq_iff
  refine ⟨hown, fun p hp => ?_, fun a b hab ha p hp => ?_, ?_⟩
  · rw [hown, inLines, List.getElem?_eq_none (Nat.le_trans (Text.length_lines_le _) hp)]
    rfl
  · rw [heditor, hab, Text.getD_editorLines_of_lt ha b hp]
  · rw [← sameWords_iff]
    exact ⟨fun h n column => (heditor ⟨n, column⟩).1 (h _), fun h p => (heditor p).2 (h _ _)⟩

/-- Behind a carriage return on its own a word is on a second line for an editor, where none is found. -/
theorem lone_return_misread :
    inLines (Text.editorLines "a\rb".toList) ⟨1, 0⟩ = some ⟨"b", ⟨1, 0⟩, ⟨1, 1⟩⟩ ∧ at? "a\rb" ⟨1, 0⟩ = none := by
  decide +kernel

end ClassAtlas.Word
