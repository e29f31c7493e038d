/-
What indexing a stylesheet comes to, by cause: of the text (`indexes_iff`), and of the file
(`loads_iff`). A file that cannot be read is refused before its path is asked for a URI, and a path
without one before the text is looked at.
-/
import ClassAtlas.Index

namespace ClassAtlas.Index

/-- What indexing a text comes to: a path without a URI is refused, and so is a text in which something
was rejected and no rule found; any other text is indexed. -/
inductive Indexes (sheet : Sheet) (css : String) : Except IndexError Index → Prop
  | noUri : Uri.ofPath? sheet.path = none → Indexes sheet css (.error (.invalidPath sheet.path))
  | noRule {uri : Uri} : Uri.ofPath? sheet.path = some uri →
      Stylesheet.rulesOf (Stylesheet.scan css) = [] → Stylesheet.rejectionsOf (Stylesheet.scan css) ≠ [] →
      Indexes sheet css
        (.error (.parse sheet.path (Stylesheet.rejectionsOf (Stylesheet.scan css)).length))
  | indexed {uri : Uri} : Uri.ofPath? sheet.path = some uri →
      Stylesheet.rulesOf (Stylesheet.scan css) ≠ [] ∨ Stylesheet.rejectionsOf (Stylesheet.scan css) = [] →
      Indexes sheet css (.ok ⟨sheet, uri, spansOf (entriesOf (Stylesheet.rulesOf (Stylesheet.scan css)))⟩)

/-- What indexing a file comes to: a file that cannot be read is refused, any other is indexed by its
text. -/
inductive Loads (fs : Files) (sheet : Sheet) : Except IndexError Index → Prop
  | unread {cause : Files.Error} : fs.readText sheet.path = .error cause →
      Loads fs sheet (.error (.read sheet.path cause))
  | read {css : String} {result : Except IndexError Index} : fs.readText sheet.path = .ok css →
      Indexes sheet css result → Loads fs sheet result

theorem indexes_ofText (sheet : Sheet) (css : String) : Indexes sheet css (ofText sheet css).1 := by
  unfold ofText
  cases hu : Uri.ofPath? sheet.path with
  | none => exact .noUri hu
  | some uri =>
    dsimp only
    split
    · next h =>
      simp only [Bool.and_eq_true, List.isEmpty_iff, Bool.not_eq_true', List.isEmpty_eq_false_iff] at h
      exact .noRule hu h.1 h.2
    · next h =>
      simp only [Bool.and_eq_true, List.isEmpty_iff, Bool.not_eq_true', List.isEmpty_eq_false_iff, not_and,
        Classical.not_not] at h
      refine .indexed hu ?_
      by_cases hr : Stylesheet.rulesOf (Stylesheet.scan css) = []
      · exact .inr (h hr)
      · exact .inl hr

/-- A text comes to one thing only. -/
theorem Indexes.unique {sheet : Sheet} {css : String} {a b : Except IndexError Index}
    (ha : Indexes sheet css a) (hb : Indexes sheet css b) : a = b := by
  cases ha with
  | noUri hu =>
    cases hb with
    | noUri _ => rfl
    | noRule hu' => rw [hu] at hu'; cases hu'
    | indexed hu' => rw [hu] at hu'; cases hu'
  | noRule hu hr hj =>
    cases hb with
    | noUri hu' => rw [hu] at hu'; cases hu'
    | noRule => rfl
    | indexed _ h =>
      rcases h with h | h
      · exact absurd hr h
      · exact absurd h hj
  | indexed hu h =>
    cases hb with
    | noUri hu' => rw [hu] at hu'; cases hu'
    | noRule _ hr hj =>
      rcases h with h | h
      · exact absurd hr h
      · exact absurd h hj
    | indexed hu' => rw [hu] at hu'; cases hu'; rfl

theorem indexes_iff (sheet : Sheet) (css : String) (result : Except IndexError Index) :
    Indexes sheet css result ↔ (ofText sheet css).1 = result :=
  ⟨fun h => (indexes_ofText sheet css).unique h, fun h => h ▸ indexes_ofText sheet css⟩

/-- Loading reads the file and indexes its text. -/
theorem loads_iff (fs : Files) (sheet : Sheet) (result : Except IndexError Index) :
    Loads fs sheet result ↔ (load fs sheet).1 = result := by
  unfold load readSheet
  constructor
  · rintro (hc | ⟨ht, hi⟩)
    · rw [hc]; rfl
    · rw [ht]; exact (indexes_iff _ _ _).1 hi
  · rintro rfl
    cases hr : fs.readText sheet.path with
    | error cause => exact .unread hr
    | ok css => exact .read hr (indexes_ofText sheet css)

end ClassAtlas.Index
