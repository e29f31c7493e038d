/-
The index of two stylesheets one behind the other. If the first one ends in itself, the rules of both are
those of the first and then those of the second, and if each of the two can be indexed, the index of both
has every entry of the second at its place behind the first, and of the first every entry that the second
does not declare again (`append_terminated`).
-/
import ClassAtlas.Proofs.Index.Outcome
import ClassAtlas.Proofs.Index.Ranges
import ClassAtlas.Proofs.Stylesheet.Appended

namespace ClassAtlas

open Stylesheet

/-- A declaration in a stylesheet, for that stylesheet behind another one. -/
def Declaration.shifted (front : List Char) (d : Declaration) : Declaration :=
  { d with span := d.span.shifted front }

namespace Index

/-- Of the spans of two lists of rules those of the second count. -/
theorem spansOf_append (first second : List StyleRule) (selector : String) :
    (spansOf (entriesOf (first ++ second)))[selector]? =
      ((spansOf (entriesOf second))[selector]?).or ((spansOf (entriesOf first))[selector]?) := by
  induction second using List.reverseRecOn with
  | nil => simp [spansOf, entriesOf]
  | append_singleton second r ih =>
    rw [← List.append_assoc, spansOf_concat, spansOf_concat, ih]
    split <;> rfl

theorem spansOf_map_shifted (front : List Char) (rules : List StyleRule) (selector : String) :
    (spansOf (entriesOf (rules.map (StyleRule.shifted front))))[selector]? =
      ((spansOf (entriesOf rules))[selector]?).map (Span.shifted front) := by
  induction rules using List.reverseRecOn with
  | nil => simp [spansOf, entriesOf]
  | append_singleton rules r ih =>
    rw [List.map_append, List.map_singleton, spansOf_concat, spansOf_concat, ih]
    have hr : (r.shifted front).selectors = r.selectors := rfl
    rw [hr]
    split <;> rfl

/-- A text can be indexed exactly if the path of its sheet has a URI, and a rule was found in it or nothing
rejected. -/
theorem ofText_eq_ok_iff {sheet : Sheet} {css : String} {i : Index} : (ofText sheet css).1 = .ok i ↔
    ∃ uri, Uri.ofPath? sheet.path = some uri ∧ (rulesOf (scan css) ≠ [] ∨ rejectionsOf (scan css) = []) ∧
      i = ⟨sheet, uri, spansOf (entriesOf (rulesOf (scan css)))⟩ := by
  rw [← indexes_iff]
  constructor
  · rintro (_ | _ | ⟨hu, hf⟩)
    exact ⟨_, hu, hf, rfl⟩
  · rintro ⟨uri, hu, hf, rfl⟩
    exact .indexed hu hf

/-- Written behind a stylesheet that ends in itself, another stylesheet adds its own rules, at their places
behind the first, and its own rejections. If each of the two can be indexed, so can both together: what the
second declares is found where it alone would have it, but behind the first, and anything else where the
first has it. -/
theorem append_terminated {a b : String} (ha : Terminated (tokens a.toList))
    (hcut : ¬ (a.toList.getLast? = some '\r' ∧ b.toList.head? = some '\n')) :
    rulesOf (scan (a ++ b)) = rulesOf (scan a) ++ (rulesOf (scan b)).map (StyleRule.shifted a.toList) ∧
    (rejectionsOf (scan (a ++ b))).length = (rejectionsOf (scan a)).length + (rejectionsOf (scan b)).length ∧
    ∀ (sheet : Sheet) (i j : Index), (ofText sheet a).1 = .ok i → (ofText sheet b).1 = .ok j →
      ∃ k, (ofText sheet (a ++ b)).1 = .ok k ∧
        ∀ selector, k.get? selector =
          ((j.get? selector).map (Declaration.shifted a.toList)).or (i.get? selector) := by
  have hscan := scan_terminated_append ha hcut
  have hrules : rulesOf (scan (a ++ b)) =
      rulesOf (scan a) ++ (rulesOf (scan b)).map (StyleRule.shifted a.toList) := by
    rw [hscan, rulesOf_append, rulesOf_map_shifted]
  have hrejections : (rejectionsOf (scan (a ++ b))).length =
      (rejectionsOf (scan a)).length + (rejectionsOf (scan b)).length := by
    rw [hscan, rejectionsOf_append, List.length_append, length_rejectionsOf_map_shifted]
  refine ⟨hrules, hrejections, fun sheet i j hi hj => ?_⟩
  obtain ⟨uri, hu, hfirst, rfl⟩ := ofText_eq_ok_iff.1 hi
  obtain ⟨uri', hu', hsecond, rfl⟩ := ofText_eq_ok_iff.1 hj
  cases hu.symm.trans hu'
  have hfound : rulesOf (scan (a ++ b)) ≠ [] ∨ rejectionsOf (scan (a ++ b)) = [] := by
    rw [or_iff_not_imp_left, Classical.not_not, hrules, List.append_eq_nil_iff, List.map_eq_nil_iff]
    rintro ⟨hnone, hnone'⟩
    rw [← List.length_eq_zero_iff, hrejections, hfirst.resolve_left (not_not_intro hnone),
      hsecond.resolve_left (not_not_intro hnone')]
    rfl
  refine ⟨_, ofText_eq_ok_iff.2 ⟨uri, hu, hfound, rfl⟩, fun selector => ?_⟩
  unfold get?
  dsimp only
  rw [hrules, spansOf_append, spansOf_map_shifted, Option.map_or, Option.map_map, Option.map_map]
  rfl

/-- A stylesheet that ends in itself, with two classes. -/
def sampleFirst : String := "@import 'x'; .a\x7b\x7d\n.b\x7b\x7d/**/<!-- "

/-- A stylesheet with one of these classes and another one, and a last piece that is rejected. -/
def sampleSecond : String := ".b\x7b\x7d\n.c\x7b\x7d d"

/-- Each of the two is indexed with two classes, and both together are with three. -/
theorem sampleFirst_append :
    ∃ i j k, (ofText sampleSheet sampleFirst).1 = .ok i ∧ (ofText sampleSheet sampleSecond).1 = .ok j ∧
      (ofText sampleSheet (sampleFirst ++ sampleSecond)).1 = .ok k ∧ (i.size, j.size, k.size) = (2, 2, 3) ∧
      ∀ selector, k.get? selector =
        ((j.get? selector).map (Declaration.shifted sampleFirst.toList)).or (i.get? selector) := by
  have hsize : ∀ (css : String) (n : Nat), (ofText sampleSheet css).1.toOption.map size = some n →
      ∃ i, (ofText sampleSheet css).1 = .ok i ∧ i.size = n := by
    intro css n h
    cases hc : (ofText sampleSheet css).1 with
    | ok i => rw [hc] at h; exact ⟨i, rfl, Option.some.inj h⟩
    | error e => rw [hc] at h; cases h
  obtain ⟨i, hi, hni⟩ := hsize sampleFirst 2 (by decide +kernel)
  obtain ⟨j, hj, hnj⟩ := hsize sampleSecond 2 (by decide +kernel)
  obtain ⟨k, hk, hnk⟩ := hsize (sampleFirst ++ sampleSecond) 3 (by decide +kernel)
  obtain ⟨-, -, hindex⟩ := append_terminated (a := sampleFirst) (b := sampleSecond) (by decide +kernel)
    (by decide +kernel)
  obtain ⟨k', hk', hget⟩ := hindex sampleSheet i j hi hj
  cases hk.symm.trans hk'
  exact ⟨i, j, k, hi, hj, hk, by rw [hni, hnj, hnk], hget⟩

end Index

end ClassAtlas
