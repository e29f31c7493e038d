/-
Carriage returns on their own. The lines of a document end at line feeds, and those of an editor at each carriage
return as well. Where every return has a line feed behind it, the two have the same lines, but for an empty one at
the end (`getD_editorLines_of_paired`). The first return that has none is inside a line of the document, which the
editor breaks in two, so that all lines from there on have other numbers (`exists_brokenAt`).
-/
import ClassAtlas.Text.Lines
import ClassAtlas.Proofs.Text.EditorLines
import Mathlib.Data.List.GetD

namespace ClassAtlas.Text

/-! ## Lines, character by character -/

/-- Induction over the characters of a text, with a carriage return told apart by what is behind it. -/
@[elab_as_elim]
theorem linesInduction {motive : List Char → Prop} (nil : motive [])
    (feed : ∀ r, motive r → motive ('\n' :: r))
    (pair : ∀ r, motive ('\n' :: r) → motive ('\r' :: '\n' :: r))
    (lone : ∀ r, r.head? ≠ some '\n' → motive r → motive ('\r' :: r))
    (char : ∀ c r, c ≠ '\n' → c ≠ '\r' → motive r → motive (c :: r)) (cs : List Char) : motive cs := by
  induction cs with
  | nil => exact nil
  | cons c r ih =>
    by_cases hn : c = '\n'
    · exact hn ▸ feed r ih
    by_cases hr : c = '\r'
    · subst hr
      by_cases hhead : r.head? = some '\n'
      · obtain ⟨t, rfl⟩ := List.head?_eq_some_iff.1 hhead
        exact pair t ih
      · exact lone r hhead ih
    · exact char c r hn hr ih

/-- Puts a character in front of the first of some lines. -/
def startLine (c : Char) : List (List Char) → List (List Char)
  | [] => [[c]]
  | l :: ls => (c :: l) :: ls

theorem getD_startLine_zero (c : Char) (ls : List (List Char)) :
    (startLine c ls).getD 0 [] = c :: ls.getD 0 [] := by
  cases ls <;> rfl

theorem getD_startLine_succ (c : Char) (ls : List (List Char)) (n : Nat) :
    (startLine c ls).getD (n + 1) [] = ls.getD (n + 1) [] := by
  cases ls <;> rfl

theorem getD_startLine_of_pos (c : Char) (ls : List (List Char)) {n : Nat} (h : 0 < n) :
    (startLine c ls).getD n [] = ls.getD n [] := by
  obtain ⟨n, rfl⟩ := Nat.exists_eq_add_of_lt h
  exact getD_startLine_succ c ls _

theorem length_startLine (c : Char) (ls : List (List Char)) : (startLine c ls).length = max 1 ls.length := by
  cases ls with
  | nil => rfl
  | cons l ls => exact (Nat.max_eq_right (Nat.succ_le_succ (Nat.zero_le _))).symm

theorem startLine_append {c : Char} {ls : List (List Char)} (h : ls ≠ []) (ms : List (List Char)) :
    startLine c (ls ++ ms) = startLine c ls ++ ms := by
  cases ls with
  | nil => exact absurd rfl h
  | cons l ls => rfl

theorem startLine_ne_nil (c : Char) (ls : List (List Char)) : startLine c ls ≠ [] := by
  cases ls <;> exact List.cons_ne_nil _ _

theorem lines_feed (r : List Char) : lines ('\n' :: r) = [] :: lines r := rfl

theorem lines_pair (r : List Char) : lines ('\r' :: '\n' :: r) = lines ('\n' :: r) := rfl

theorem lines_lone {r : List Char} (h : r.head? ≠ some '\n') : lines ('\r' :: r) = startLine '\r' (lines r) := by
  rw [lines]
  · cases lines r <;> rfl
  · decide
  · rintro t - rfl
    exact h rfl

theorem lines_char {c : Char} (hn : c ≠ '\n') (hr : c ≠ '\r') (r : List Char) :
    lines (c :: r) = startLine c (lines r) := by
  rw [lines]
  · cases lines r <;> rfl
  · exact hn
  · exact fun _ hc => absurd hc hr

theorem lines_ne_nil {cs : List Char} (h : cs ≠ []) : lines cs ≠ [] := by
  induction cs using linesInduction with
  | nil => exact absurd rfl h
  | feed r _ => exact List.cons_ne_nil _ _
  | pair r ih => exact ih (List.cons_ne_nil _ _)
  | lone r hr _ =>
    rw [lines_lone hr]
    exact startLine_ne_nil _ _
  | char c r hn hr _ =>
    rw [lines_char hn hr]
    exact startLine_ne_nil _ _

theorem editorLines_ne_nil (cs : List Char) : editorLines cs ≠ [] := by
  induction cs with
  | nil => exact List.cons_ne_nil _ _
  | cons c r ih =>
    rw [editorLines]
    split
    · exact List.cons_ne_nil _ _
    split
    · exact ih
    · rwa [ne_eq, List.modifyHead_eq_nil_iff]

theorem editorLines_feed (r : List Char) : editorLines ('\n' :: r) = [] :: editorLines r := rfl

theorem editorLines_lone {r : List Char} (h : r.head? ≠ some '\n') :
    editorLines ('\r' :: r) = [] :: editorLines r := by
  rw [editorLines, if_pos (endsLine_iff.2 (.inr ⟨rfl, h⟩))]

theorem editorLines_char {c : Char} (hn : c ≠ '\n') (hr : c ≠ '\r') (r : List Char) :
    editorLines (c :: r) = startLine c (editorLines r) := by
  rw [editorLines, endsLine_eq_false hn hr, if_neg Bool.false_ne_true, if_neg hr]
  cases hlines : editorLines r with
  | nil => exact absurd hlines (editorLines_ne_nil r)
  | cons l ls => rfl

/-- An editor has a line for each line of a document. -/
theorem length_lines_le (cs : List Char) : (lines cs).length ≤ (editorLines cs).length := by
  induction cs using linesInduction with
  | nil => exact Nat.zero_le _
  | feed r ih => exact Nat.succ_le_succ ih
  | pair r ih => exact ih
  | lone r hr ih =>
    rw [lines_lone hr, editorLines_lone hr, length_startLine, List.length_cons]
    omega
  | char c r hn hr ih =>
    rw [lines_char hn hr, editorLines_char hn hr, length_startLine, length_startLine]
    omega

theorem mem_startLine {c d : Char} {ls : List (List Char)} {n : Nat} (h : d ∈ ls.getD n []) :
    d ∈ (startLine c ls).getD n [] := by
  cases n with
  | zero =>
    rw [getD_startLine_zero]
    exact List.mem_cons_of_mem c h
  | succ n => rwa [getD_startLine_succ]

theorem mem_of_mem_startLine {c d : Char} {ls : List (List Char)} {n : Nat}
    (h : d ∈ (startLine c ls).getD n []) : d = c ∨ d ∈ ls.getD n [] := by
  cases n with
  | zero => rwa [getD_startLine_zero, List.mem_cons] at h
  | succ n => exact .inr (by rwa [getD_startLine_succ] at h)

/-- The lines of a document have its characters, without line feeds. -/
theorem mem_of_mem_lines {cs : List Char} {n : Nat} {d : Char} (h : d ∈ (lines cs).getD n []) :
    d ∈ cs ∧ d ≠ '\n' := by
  induction cs using linesInduction generalizing n with
  | nil => cases h
  | feed r ih =>
    cases n with
    | zero => cases h
    | succ n => exact (ih h).imp_left (List.mem_cons_of_mem _)
  | pair r ih => exact (ih h).imp_left (List.mem_cons_of_mem _)
  | lone r hr ih =>
    rw [lines_lone hr] at h
    rcases mem_of_mem_startLine h with rfl | h
    · exact ⟨List.mem_cons_self, by decide⟩
    · exact (ih h).imp_left (List.mem_cons_of_mem _)
  | char c r hn hr ih =>
    rw [lines_char hn hr] at h
    rcases mem_of_mem_startLine h with rfl | h
    · exact ⟨List.mem_cons_self, hn⟩
    · exact (ih h).imp_left (List.mem_cons_of_mem c)

/-- So do the lines of an editor. -/
theorem mem_of_mem_editorLines {cs : List Char} {n : Nat} {d : Char} (h : d ∈ (editorLines cs).getD n []) :
    d ∈ cs ∧ d ≠ '\n' := by
  induction cs using linesInduction generalizing n with
  | nil => cases n <;> cases h
  | feed r ih =>
    cases n with
    | zero => cases h
    | succ n => exact (ih h).imp_left (List.mem_cons_of_mem _)
  | pair r ih => exact (ih h).imp_left (List.mem_cons_of_mem _)
  | lone r hr ih =>
    rw [editorLines_lone hr] at h
    cases n with
    | zero => cases h
    | succ n => exact (ih h).imp_left (List.mem_cons_of_mem _)
  | char c r hn hr ih =>
    rw [editorLines_char hn hr] at h
    rcases mem_of_mem_startLine h with rfl | h
    · exact ⟨List.mem_cons_self, hn⟩
    · exact (ih h).imp_left (List.mem_cons_of_mem c)

/-- A text without line feeds is its own only line. -/
theorem getD_lines_of_not_mem {cs : List Char} (h : '\n' ∉ cs) : (lines cs).getD 0 [] = cs := by
  induction cs with
  | nil => rfl
  | cons c r ih =>
    rw [List.mem_cons, not_or] at h
    by_cases hr : c = '\r'
    · subst hr
      rw [lines_lone fun hhead => h.2 (List.mem_of_mem_head? hhead), getD_startLine_zero, ih h.2]
    · rw [lines_char (Ne.symm h.1) hr, getD_startLine_zero, ih h.2]

/-! ## Returns with a line feed behind them -/

/-- Every carriage return of a text has a line feed behind it. -/
def Paired (cs : List Char) : Prop :=
  ∀ a b, cs = a ++ '\r' :: b → b.head? = some '\n'

theorem paired_nil : Paired [] :=
  fun a _ h => absurd h.symm (List.append_ne_nil_of_right_ne_nil a (List.cons_ne_nil _ _))

theorem Paired.of_append {a b : List Char} (h : Paired (a ++ b)) : Paired b :=
  fun x y hb => h (a ++ x) y (by rw [hb, List.append_assoc])

theorem Paired.of_cons {c : Char} {r : List Char} (h : Paired (c :: r)) : Paired r :=
  of_append (a := [c]) h

theorem Paired.cons {c : Char} {r : List Char} (hc : c = '\r' → r.head? = some '\n') (h : Paired r) :
    Paired (c :: r) := by
  intro a b hab
  rcases List.cons_eq_append_iff.1 hab with ⟨rfl, hcr⟩ | ⟨a, rfl, rfl⟩
  · obtain ⟨rfl, rfl⟩ := List.cons.inj hcr
    exact hc rfl
  · exact h a b rfl

/-- In a text with such returns only, an editor has the lines that the document has, and perhaps an empty one
behind them. -/
theorem getD_editorLines_of_paired {cs : List Char} (h : Paired cs) (n : Nat) :
    (editorLines cs).getD n [] = (lines cs).getD n [] := by
  induction cs using linesInduction generalizing n with
  | nil => cases n <;> rfl
  | feed r ih =>
    cases n with
    | zero => rfl
    | succ n => exact ih h.of_cons n
  | pair r ih => exact ih h.of_cons n
  | lone r hr _ => exact absurd (h [] r rfl) hr
  | char c r hn hr ih =>
    replace ih := ih h.of_cons
    rw [lines_char hn hr, editorLines_char hn hr]
    cases n with
    | zero => rw [getD_startLine_zero, getD_startLine_zero, ih]
    | succ n => rw [getD_startLine_succ, getD_startLine_succ, ih]

/-- A text has such returns only, or a first one that is none of them. -/
theorem paired_or_exists (cs : List Char) :
    Paired cs ∨ ∃ a b, cs = a ++ '\r' :: b ∧ Paired a ∧ b.head? ≠ some '\n' := by
  induction cs with
  | nil => exact .inl paired_nil
  | cons c r ih =>
    by_cases hlone : c = '\r' ∧ r.head? ≠ some '\n'
    · obtain ⟨rfl, hr⟩ := hlone
      exact .inr ⟨[], r, rfl, paired_nil, hr⟩
    rw [not_and, not_not] at hlone
    rcases ih with hpaired | ⟨a, b, rfl, ha, hb⟩
    · exact .inl (hpaired.cons hlone)
    · refine .inr ⟨c :: a, b, rfl, ha.cons fun hc => ?_, hb⟩
      have hhead := hlone hc
      cases a with
      | nil => cases hhead
      | cons d a => exact hhead

/-! ## The first other return -/

/-- A text that is empty or ends with a line feed. -/
def Closed (cs : List Char) : Prop :=
  ∀ c ∈ cs.getLast?, c = '\n'

theorem closed_nil : Closed [] :=
  fun _ h => absurd h (Option.not_mem_none _)

theorem Closed.cons {c : Char} {r : List Char} (h : Closed r) (hne : r ≠ []) : Closed (c :: r) := by
  intro d hd
  rw [List.getLast?_cons_of_ne_nil hne] at hd
  exact h d hd

theorem Closed.of_cons {c : Char} {r : List Char} (h : Closed (c :: r)) : Closed r := by
  intro d hd
  refine h d ?_
  rw [List.getLast?_cons, Option.mem_def.1 hd]
  rfl

theorem Closed.ne_nil {c : Char} {r : List Char} (h : Closed (c :: r)) (hc : c ≠ '\n') : r ≠ [] := by
  rintro rfl
  exact hc (h c rfl)

/-- A text is a closed part, and a line behind it. -/
theorem exists_closed (cs : List Char) : ∃ y l, cs = y ++ l ∧ Closed y ∧ '\n' ∉ l := by
  induction cs with
  | nil => exact ⟨[], [], rfl, closed_nil, List.not_mem_nil⟩
  | cons c r ih =>
    obtain ⟨y, l, rfl, hy, hl⟩ := ih
    cases y with
    | cons d y => exact ⟨c :: d :: y, l, rfl, hy.cons (List.cons_ne_nil _ _), hl⟩
    | nil =>
      by_cases hc : c = '\n'
      · exact ⟨[c], l, rfl, fun d hd => (Option.some.inj hd).symm.trans hc, hl⟩
      · exact ⟨[], c :: l, rfl, closed_nil, by simp [Ne.symm hc, hl]⟩

/-- The lines of a closed part come before those of what follows. -/
theorem lines_append {y : List Char} (hy : Closed y) (t : List Char) : lines (y ++ t) = lines y ++ lines t := by
  induction y using linesInduction with
  | nil => rfl
  | feed r ih => rw [List.cons_append, lines_feed, lines_feed, ih hy.of_cons, List.cons_append]
  | pair r ih => exact ih hy.of_cons
  | lone r hr ih =>
    have hne : r ≠ [] := hy.ne_nil (by decide)
    have hhead : (r ++ t).head? ≠ some '\n' := by
      obtain ⟨d, s, rfl⟩ := List.exists_cons_of_ne_nil hne
      exact hr
    rw [List.cons_append, lines_lone hr, lines_lone hhead, ih hy.of_cons,
      startLine_append (lines_ne_nil hne)]
  | char c r hn hr ih =>
    rw [List.cons_append, lines_char hn hr, lines_char hn hr, ih hy.of_cons,
      startLine_append (lines_ne_nil (hy.ne_nil hn))]

theorem editorLines_append {y : List Char} (hy : Closed y) (hpaired : Paired y) (t : List Char) :
    editorLines (y ++ t) = lines y ++ editorLines t := by
  induction y using linesInduction with
  | nil => rfl
  | feed r ih =>
    rw [List.cons_append, editorLines_feed, lines_feed, ih hy.of_cons hpaired.of_cons,
      List.cons_append]
  | pair r ih => exact ih hy.of_cons hpaired.of_cons
  | lone r hr _ => exact absurd (hpaired [] r rfl) hr
  | char c r hn hr ih =>
    rw [List.cons_append, lines_char hn hr, editorLines_char hn hr,
      ih hy.of_cons hpaired.of_cons, startLine_append (lines_ne_nil (hy.ne_nil hn))]

/-- A text has as many line feeds as its closed part has lines. -/
theorem count_feed {y l : List Char} (hy : Closed y) (hl : '\n' ∉ l) : (y ++ l).count '\n' = (lines y).length := by
  rw [List.count_append, List.count_eq_zero.2 hl, Nat.add_zero]
  induction y using linesInduction with
  | nil => rfl
  | feed r ih => rw [List.count_cons_self, ih hy.of_cons, lines_feed, List.length_cons]
  | pair r ih => rw [List.count_cons_of_ne (by decide), ih hy.of_cons, lines_pair]
  | lone r hr ih =>
    have hpos := List.length_pos_iff.2 (lines_ne_nil (hy.ne_nil (by decide)))
    rw [List.count_cons_of_ne (by decide), ih hy.of_cons, lines_lone hr, length_startLine, Nat.max_eq_right hpos]
  | char c r hn hr ih =>
    have hpos := List.length_pos_iff.2 (lines_ne_nil (hy.ne_nil hn))
    rw [List.count_cons_of_ne hn, ih hy.of_cons, lines_char hn hr, length_startLine, Nat.max_eq_right hpos]

theorem Paired.of_closed {y l : List Char} (h : Paired (y ++ l)) (hy : Closed y) : Paired y := by
  rintro a b rfl
  have hhead := h a (b ++ l) (by rw [List.append_assoc, List.cons_append])
  cases b with
  | nil => cases hy '\r' (by rw [List.getLast?_concat]; rfl)
  | cons c b => exact hhead

/-- An editor has the lines of a document as far as every carriage return has a line feed behind it. -/
theorem getD_editorLines_of_lt {a : List Char} (ha : Paired a) (b : List Char) {n : Nat} (hn : n < a.count '\n') :
    (editorLines (a ++ b)).getD n [] = (lines (a ++ b)).getD n [] := by
  obtain ⟨y, l, rfl, hy, hl⟩ := exists_closed a
  rw [count_feed hy hl] at hn
  rw [List.append_assoc, editorLines_append hy (ha.of_closed hy), lines_append hy, List.getD_append _ _ _ _ hn,
    List.getD_append _ _ _ _ hn]

theorem getD_foldr_startLine (l : List Char) (ls : List (List Char)) :
    (l.foldr startLine ls).getD 0 [] = l ++ ls.getD 0 [] ∧
      ∀ n, (l.foldr startLine ls).getD (n + 1) [] = ls.getD (n + 1) [] := by
  induction l with
  | nil => exact ⟨rfl, fun _ => rfl⟩
  | cons c l ih =>
    rw [List.foldr_cons, getD_startLine_zero, ih.1]
    exact ⟨rfl, fun n => (getD_startLine_succ c _ n).trans (ih.2 n)⟩

/-- The start of a line comes in front of the first line of what follows. -/
theorem lines_append_line {l : List Char} (hn : '\n' ∉ l) (hr : '\r' ∉ l) (t : List Char) :
    lines (l ++ t) = l.foldr startLine (lines t) := by
  induction l with
  | nil => rfl
  | cons c l ih =>
    rw [List.mem_cons, not_or] at hn hr
    rw [List.cons_append, lines_char (Ne.symm hn.1) (Ne.symm hr.1), ih hn.2 hr.2, List.foldr_cons]

theorem editorLines_append_line {l : List Char} (hn : '\n' ∉ l) (hr : '\r' ∉ l) (t : List Char) :
    editorLines (l ++ t) = l.foldr startLine (editorLines t) := by
  induction l with
  | nil => rfl
  | cons c l ih =>
    rw [List.mem_cons, not_or] at hn hr
    rw [List.cons_append, editorLines_char (Ne.symm hn.1) (Ne.symm hr.1), ih hn.2 hr.2, List.foldr_cons]

/-- A line of a text is broken for an editor, which has `l` for that line. The text `b` is what is behind the
return: its first line is still on the same line of the document. -/
structure BrokenAt (cs : List Char) (k : Nat) (l b : List Char) : Prop where
  line : (lines cs).getD k [] = l ++ '\r' :: (lines b).getD 0 []
  editorLine : (editorLines cs).getD k [] = l
  later : ∀ n, (lines cs).getD (k + 1 + n) [] = (lines b).getD (n + 1) []
  editorLater : ∀ n, (editorLines cs).getD (k + 1 + n) [] = (editorLines b).getD n []

/-- The first return that has no line feed behind it breaks the line that it is on. -/
theorem exists_brokenAt {a b : List Char} (ha : Paired a) (hb : b.head? ≠ some '\n') :
    ∃ y l, a = y ++ l ∧ Closed y ∧ BrokenAt (a ++ '\r' :: b) (a.count '\n') l b := by
  obtain ⟨y, l, rfl, hy, hl⟩ := exists_closed a
  -- a return on the last line would have its line feed on that line
  have hreturn : '\r' ∉ l := by
    intro hmem
    obtain ⟨s, t, rfl⟩ := List.append_of_mem hmem
    exact hl (List.mem_append_right s (List.mem_cons_of_mem _ (List.mem_of_mem_head? (ha.of_append s t rfl))))
  have hlines : lines (y ++ l ++ '\r' :: b) = lines y ++ l.foldr startLine (startLine '\r' (lines b)) := by
    rw [List.append_assoc, lines_append hy, lines_append_line hl hreturn, lines_lone hb]
  have heditor : editorLines (y ++ l ++ '\r' :: b) = lines y ++ l.foldr startLine ([] :: editorLines b) := by
    rw [List.append_assoc, editorLines_append hy (ha.of_closed hy), editorLines_append_line hl hreturn,
      editorLines_lone hb]
  have hindex : ∀ n, (lines y).length + 1 + n - (lines y).length = n + 1 := fun n => by omega
  rw [count_feed hy hl]
  refine ⟨y, l, rfl, hy, ?_, ?_, fun n => ?_, fun n => ?_⟩
  · rw [hlines, List.getD_append_right _ _ _ _ (Nat.le_refl _), Nat.sub_self, (getD_foldr_startLine _ _).1,
      getD_startLine_zero]
  · rw [heditor, List.getD_append_right _ _ _ _ (Nat.le_refl _), Nat.sub_self, (getD_foldr_startLine _ _).1]
    exact List.append_nil l
  · rw [hlines, List.getD_append_right _ _ _ _ (by omega), hindex, (getD_foldr_startLine _ _).2,
      getD_startLine_succ]
  · rw [heditor, List.getD_append_right _ _ _ _ (by omega), hindex, (getD_foldr_startLine _ _).2]
    rfl

/-- Where a text has characters of some kind, one of them is on an editor's line whose number no line of the
document with such a character exceeds. -/
theorem exists_last_editorLine {p : Char → Bool} (hfeed : p '\n' = false) (hreturn : p '\r' = false)
    {cs : List Char} (h : ∃ c ∈ cs, p c = true) : ∃ n, (∃ c ∈ (editorLines cs).getD n [], p c = true) ∧
      ∀ m, n < m → ∀ c ∈ (lines cs).getD m [], p c = false := by
  have htail : ∀ {c r}, p c = false → (∃ d ∈ c :: r, p d = true) → ∃ d ∈ r, p d = true := by
    rintro c r hc ⟨d, hd, hp⟩
    rcases List.mem_cons.1 hd with rfl | hd
    · exact absurd (hc.symm.trans hp) Bool.false_ne_true
    · exact ⟨d, hd, hp⟩
  induction cs using linesInduction with
  | nil =>
    obtain ⟨c, hc, -⟩ := h
    cases hc
  | feed r ih =>
    obtain ⟨n, hmem, hlater⟩ := ih (htail hfeed h)
    refine ⟨n + 1, hmem, fun m hm => ?_⟩
    cases m with
    | zero => cases hm
    | succ m => exact hlater m (Nat.lt_of_succ_lt_succ hm)
  | pair r ih => exact ih (htail hreturn h)
  | lone r hr ih =>
    obtain ⟨n, hmem, hlater⟩ := ih (htail hreturn h)
    rw [editorLines_lone hr, lines_lone hr]
    refine ⟨n + 1, hmem, fun m hm => ?_⟩
    rw [getD_startLine_of_pos _ _ (Nat.zero_lt_of_lt hm)]
    exact hlater m (Nat.lt_of_succ_lt hm)
  | char c r hn hr ih =>
    rw [editorLines_char hn hr, lines_char hn hr]
    by_cases hrest : ∃ d ∈ r, p d = true
    · obtain ⟨n, ⟨d, hd, hp⟩, hlater⟩ := ih hrest
      refine ⟨n, ⟨d, mem_startLine hd, hp⟩, fun m hm => ?_⟩
      rw [getD_startLine_of_pos _ _ (Nat.zero_lt_of_lt hm)]
      exact hlater m hm
    · -- the first character is the only one of its kind
      have hc : p c = true := by
        obtain ⟨d, hd, hp⟩ := h
        rcases List.mem_cons.1 hd with rfl | hd
        · exact hp
        · exact absurd ⟨d, hd, hp⟩ hrest
      refine ⟨0, ⟨c, ?_, hc⟩, fun m hm d hd => ?_⟩
      · rw [getD_startLine_zero]
        exact List.mem_cons_self
      · rw [getD_startLine_of_pos _ _ hm] at hd
        rw [Bool.eq_false_iff]
        exact fun hp => hrest ⟨d, (mem_of_mem_lines hd).1, hp⟩

end ClassAtlas.Text
