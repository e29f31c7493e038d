/-
Lines as an editor counts them. A line ends at a line feed, at a carriage return with the line feed behind it,
and at a carriage return on its own, and nowhere else; a position is read by skipping lines, and then columns.
The text in front of a position that is read has as many line ends as the position has lines before it
(`editorEnds_of_textBefore?`).
-/
import ClassAtlas.Text.Position
import ClassAtlas.Text.Units
import Mathlib.Data.List.TakeDrop

namespace ClassAtlas.Text

/-- Whether a line ends behind a character with some text behind it. A carriage return in front of a line feed
ends no line: the line feed does. -/
def endsLine (c : Char) (r : List Char) : Bool :=
  c == '\n' || (c == '\r' && r.head? != some '\n')

/-- The lines of a text, without their ends. Behind the last end there is always one more line, which may be
empty. -/
def editorLines : List Char → List (List Char)
  | [] => [[]]
  | c :: r =>
    if endsLine c r then [] :: editorLines r
    else if c = '\r' then editorLines r
    else (editorLines r).modifyHead (c :: ·)

/-- The number of line ends in a text. -/
def editorEnds : List Char → Nat
  | [] => 0
  | c :: r => (if endsLine c r then 1 else 0) + editorEnds r

/-- The text in front of a position, if there is a line of that number. A column behind the end of the line
stands for that end, and one inside a pair of units for the character of the pair. -/
def textBefore? (p : Position) : List Char → Option (List Char)
  | [] => if p.line = 0 then some [] else none
  | c :: r =>
    if p.line = 0 then
      if c = '\n' ∨ c = '\r' ∨ p.column < units c then some []
      else (textBefore? ⟨0, p.column - units c⟩ r).map (c :: ·)
    else
      (textBefore? ⟨if endsLine c r then p.line - 1 else p.line, p.column⟩ r).map (c :: ·)

/-! ## Line ends -/

theorem endsLine_iff {c : Char} {r : List Char} :
    endsLine c r = true ↔ c = '\n' ∨ c = '\r' ∧ r.head? ≠ some '\n' := by
  simp [endsLine]

theorem endsLine_eq_false {c : Char} (hn : c ≠ '\n') (hr : c ≠ '\r') (r : List Char) : endsLine c r = false := by
  simp [endsLine, hn, hr]

/-- Whether a line ends is seen from a text that is not cut inside a line end. -/
theorem endsLine_append {c : Char} {r b : List Char}
    (hb : (c :: r).getLast? = some '\r' → b.head? ≠ some '\n') : endsLine c (r ++ b) = endsLine c r := by
  cases r with
  | nil =>
    rw [List.getLast?_singleton, Option.some.injEq] at hb
    rw [Bool.eq_iff_iff, endsLine_iff, endsLine_iff, List.nil_append, List.head?_nil]
    exact or_congr_right (and_congr_right fun hc => iff_of_true (hb hc) (by simp))
  | cons d r => rfl

theorem editorEnds_cons (c : Char) (r : List Char) :
    editorEnds (c :: r) = (if endsLine c r then 1 else 0) + editorEnds r := rfl

/-! ## Reading a position -/

/-- On the first line reading stops before the line ends. -/
theorem textBefore?_first {column : Nat} {c : Char} {r : List Char} (hn : c ≠ '\n') (hr : c ≠ '\r')
    (hcolumn : units c ≤ column) :
    textBefore? ⟨0, column⟩ (c :: r) = (textBefore? ⟨0, column - units c⟩ r).map (c :: ·) := by
  rw [textBefore?, if_pos rfl, if_neg]
  rintro (h | h | h)
  · exact hn h
  · exact hr h
  · exact absurd h (Nat.not_lt_of_le hcolumn)

/-- Before a later line everything is skipped. -/
theorem textBefore?_later (line column : Nat) (c : Char) (r : List Char) :
    textBefore? ⟨line + 1, column⟩ (c :: r) =
      (textBefore? ⟨if endsLine c r then line else line + 1, column⟩ r).map (c :: ·) := by
  rw [textBefore?, if_neg (Nat.succ_ne_zero line)]
  rfl

theorem textBefore?_start (cs : List Char) : textBefore? ⟨0, 0⟩ cs = some [] := by
  cases cs with
  | nil => rfl
  | cons c r => simp [textBefore?, units_pos]

theorem prefix_of_textBefore? {p : Position} {cs a : List Char} (h : textBefore? p cs = some a) : a <+: cs := by
  induction cs generalizing p a with
  | nil =>
    rw [textBefore?] at h
    split at h
    · cases h
      exact List.prefix_rfl
    · cases h
  | cons c r ih =>
    rw [textBefore?] at h
    split at h
    · split at h
      · cases h
        exact List.nil_prefix
      · obtain ⟨a', ha', rfl⟩ := Option.map_eq_some_iff.1 h
        exact List.prefix_cons_inj c |>.2 (ih ha')
    · obtain ⟨a', ha', rfl⟩ := Option.map_eq_some_iff.1 h
      exact List.prefix_cons_inj c |>.2 (ih ha')

/-- Behind a character that is skipped before a later line, reading starts as the text goes on. -/
theorem endsLine_of_textBefore? {line column : Nat} {c : Char} {r a : List Char}
    (h : textBefore? ⟨if endsLine c r then line else line + 1, column⟩ r = some a) :
    endsLine c a = endsLine c r := by
  obtain ⟨b, rfl⟩ := prefix_of_textBefore? h
  cases a with
  | cons d a => rfl
  | nil =>
    -- only behind a line end may nothing be left to skip
    cases hends : endsLine c ([] ++ b) with
    | true =>
      rw [endsLine_iff] at hends ⊢
      exact hends.imp_right fun hreturn => ⟨hreturn.1, by rw [List.head?_nil]; simp⟩
    | false =>
      rw [hends, if_neg Bool.false_ne_true, List.nil_append] at h
      cases b with
      | nil => exact hends
      | cons d b =>
        rw [textBefore?_later] at h
        obtain ⟨a', -, ha'⟩ := Option.map_eq_some_iff.1 h
        cases ha'

/-- The text in front of a position ends as many lines as there are before the position. -/
theorem editorEnds_of_textBefore? {p : Position} {cs a : List Char} (h : textBefore? p cs = some a) :
    editorEnds a = p.line := by
  obtain ⟨line, column⟩ := p
  induction cs generalizing line column a with
  | nil =>
    rw [textBefore?] at h
    split at h
    · next hline =>
      cases h
      exact hline.symm
    · cases h
  | cons c r ih =>
    cases line with
    | zero =>
      rw [textBefore?, if_pos rfl] at h
      split at h
      · cases h
        rfl
      · next hstop =>
        obtain ⟨a', ha', rfl⟩ := Option.map_eq_some_iff.1 h
        have hends := endsLine_eq_false (fun hn => hstop (.inl hn)) (fun hr => hstop (.inr (.inl hr))) a'
        rw [editorEnds_cons, hends, ih 0 _ ha']
        rfl
    | succ line =>
      rw [textBefore?_later] at h
      obtain ⟨a', ha', rfl⟩ := Option.map_eq_some_iff.1 h
      rw [editorEnds_cons, endsLine_of_textBefore? ha', ih _ _ ha']
      cases endsLine c r with
      | true => exact Nat.add_comm 1 line
      | false => exact Nat.zero_add _

end ClassAtlas.Text
