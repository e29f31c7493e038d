/-
Where the ranges of an index lie. Every range starts inside its stylesheet, and stops inside it if
the block of its rule is closed. The column at which a range stops is told for a closing bracket of
one unit; where the stylesheet ends first there is no such bracket, and the range stops one column
behind the end of the text (`RangeIn`, and `get?_ofText_range` for the entries of an index).
-/
import ClassAtlas.Proofs.Index.LastRule
import ClassAtlas.Proofs.Stylesheet.Lines
import ClassAtlas.Proofs.Stylesheet.Placed

namespace ClassAtlas

namespace Stylesheet

/-- Where the range of a style rule lies in its stylesheet. -/
structure RangeIn (css : List Char) (s : StyleNode) : Prop where
  /-- It starts inside the stylesheet. -/
  start : HasPosition css s.rule.span.start
  /-- It stops inside the stylesheet if the block is closed. -/
  closed : s.closer.isSome → HasPosition css s.rule.span.stop
  /-- Otherwise it stops one column behind the end of the stylesheet, where there is no position. -/
  unclosed : s.closer = none →
    s.rule.span.stop = (positionAfter css).right 1 ∧ ¬ HasPosition css s.rule.span.stop

theorem rangeIn_of_mem {css : String} {s : StyleNode} (hs : s ∈ notedNodes css) : RangeIn css.toList s := by
  have hp := placed_of_mem hs
  obtain ⟨after, hcss⟩ := hp.text
  refine ⟨?_, fun hc => ?_, fun hu => ?_⟩
  · rw [hp.start, hcss]
    exact hasPosition_positionAfter _ _
  · rw [(hp.closed hc).2, hcss, ← List.append_assoc]
    exact hasPosition_positionAfter _ _
  · rw [(hp.unclosed hu).2]
    exact ⟨rfl, not_hasPosition_right _⟩

end Stylesheet

namespace Index

/-- Nothing is kept under what is no class selector. -/
theorem spansOf_eq_none (rules : List Stylesheet.StyleRule) {selector : String}
    (hc : isClassSelector selector = false) : (spansOf (entriesOf rules))[selector]? = none := by
  induction rules using List.reverseRecOn with
  | nil => simp [spansOf, entriesOf]
  | append_singleton rules r ih =>
    rw [spansOf_concat, if_neg (by simp [hc]), ih]

/-- Every entry of an index is the range of a rule of its stylesheet, the last that lists the
selector, and lies in the stylesheet as the range of a rule does: inside it, but for a rule that is
still open where the stylesheet ends. -/
theorem get?_ofText_range {sheet : Sheet} {css : String} {i : Index} (h : (ofText sheet css).1 = .ok i)
    {selector : String} {d : Declaration} (hd : i.get? selector = some d) :
    ∃ s ∈ Stylesheet.notedNodes css,
      LastListing (Stylesheet.rulesOf (Stylesheet.scan css)) selector s.rule ∧ s.rule.span = d.span ∧
      Stylesheet.RangeIn css.toList s := by
  obtain ⟨-, -, hspans⟩ := ofText_eq_ok h
  unfold get? at hd
  rw [Option.map_eq_some_iff, hspans] at hd
  obtain ⟨span, hspan, rfl⟩ := hd
  have hc : isClassSelector selector = true := by
    cases hc : isClassSelector selector with
    | true => rfl
    | false => rw [spansOf_eq_none _ hc] at hspan; cases hspan
  obtain ⟨rule, hlast, rfl⟩ := (spansOf_eq_some_iff _ hc span).1 hspan
  have hmem : rule ∈ (Stylesheet.notedNodes css).map Stylesheet.StyleNode.rule := by
    obtain ⟨earlier, later, hrules, -⟩ := hlast
    rw [← Stylesheet.rulesOf_scan_eq_map, hrules]
    simp
  obtain ⟨s, hs, rfl⟩ := List.mem_map.1 hmem
  exact ⟨s, hs, hlast, rfl, Stylesheet.rangeIn_of_mem hs⟩

/-- The stylesheet of a small index. -/
def sampleSheet : Sheet := ⟨⟨[0x2F, 0x61]⟩, .project⟩

/-- A stylesheet of three characters that ends in an open rule has a range of four columns. -/
theorem sampleSheet_unclosed :
    ∃ i d, (ofText sampleSheet ".a\x7b").1 = .ok i ∧ i.get? ".a" = some d ∧ d.span = ⟨⟨0, 0⟩, ⟨0, 4⟩⟩ := by
  have hspan : ((ofText sampleSheet ".a\x7b").1.toOption.bind (·.get? ".a")).map (·.span) =
      some ⟨⟨0, 0⟩, ⟨0, 4⟩⟩ := by decide +kernel
  obtain ⟨d, hd, hspan⟩ := Option.map_eq_some_iff.1 hspan
  obtain ⟨i, hi, hd⟩ := Option.bind_eq_some_iff.1 hd
  cases ho : (ofText sampleSheet ".a\x7b").1 with
  | error e => rw [ho] at hi; cases hi
  | ok i' =>
    rw [ho] at hi
    cases hi
    exact ⟨i, d, rfl, hd, hspan⟩

/-- Its entry is the range of a rule that nothing closes. -/
theorem get?_unclosed_range :
    ∃ i d, (ofText sampleSheet ".a\x7b").1 = .ok i ∧ i.get? ".a" = some d ∧
      ∃ s ∈ Stylesheet.notedNodes ".a\x7b", s.rule.span = d.span ∧
        Stylesheet.RangeIn ".a\x7b".toList s := by
  obtain ⟨i, d, hi, hd, -⟩ := sampleSheet_unclosed
  obtain ⟨s, hs, -, hspan, hr⟩ := get?_ofText_range hi hd
  exact ⟨i, d, hi, hd, s, hs, hspan, hr⟩

/-- Its range stops at no position of the stylesheet. -/
theorem unclosed_range_outside :
    ∃ i d, (ofText sampleSheet ".a\x7b").1 = .ok i ∧ i.get? ".a" = some d ∧
      ¬ Stylesheet.HasPosition ".a\x7b".toList d.span.stop := by
  obtain ⟨i, d, hi, hd, hspan⟩ := sampleSheet_unclosed
  refine ⟨i, d, hi, hd, ?_⟩
  rw [hspan]
  decide +kernel

end Index

end ClassAtlas
