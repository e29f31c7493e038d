/-
Ranges in the order of the file. The spans of the rules of a stylesheet rise, and no two of them share a
position; a rule comes later in the list exactly if it starts later in the file. So two keys of an index have
ranges that overlap only if one rule lists both and is the last to list either (`inOrder_scan`).
-/
import ClassAtlas.Proofs.Index.Ranges
import ClassAtlas.Proofs.Stylesheet.Order

namespace ClassAtlas

open Stylesheet (StyleRule StyleNode rulesOf scan notedNodes)

/-- A position lies in a span; where the span stops it does not. -/
def Span.Holds (s : Span) (p : Position) : Prop :=
  ¬ p.before s.start ∧ p.before s.stop

/-- Of two spans the one stops before the other starts, or where it starts. -/
theorem Span.not_both_hold {s t : Span} (h : ¬ t.start.before s.stop) (p : Position) :
    ¬ (s.Holds p ∧ t.Holds p) := by
  rintro ⟨⟨-, hstop⟩, ⟨hstart, -⟩⟩
  -- `p` is before the end of `s`, and so before the start of `t`
  exact hstart (Position.before_of_before_of_not_before hstop h)

namespace Index

/-- A rule that lists two selectors, and that is the last of some rules to list either. -/
structure LastForBoth (rules : List StyleRule) (k l : String) (rule : StyleRule) : Prop where
  split : ∃ earlier later, rules = earlier ++ rule :: later ∧
    ∀ r ∈ later, k ∉ r.selectors ∧ l ∉ r.selectors
  first : k ∈ rule.selectors
  second : l ∈ rule.selectors

/-- The rules of a stylesheet, and the ranges of its indexes, are in the order of the file. -/
structure InOrder (css : String) : Prop where
  rises : ∀ r ∈ rulesOf (scan css), r.span.start.before r.span.stop
  consecutive : List.IsChain (fun r s : StyleRule => ¬ s.span.start.before r.span.stop) (rulesOf (scan css))
  disjoint : (rulesOf (scan css)).Pairwise fun r s => ∀ p, ¬ (r.span.Holds p ∧ s.span.Holds p)
  /-- Later in the list is later in the file, by the places where rules start. -/
  later : ∀ (m n : Nat) (r s : StyleRule), (rulesOf (scan css))[m]? = some r → (rulesOf (scan css))[n]? = some s →
    (m < n ↔ r.span.start.before s.span.start)
  /-- And by what stands in the file: of two rules the first ends before the second. -/
  inFile : rulesOf (scan css) = (notedNodes css).map StyleNode.rule ∧ (notedNodes css).Pairwise StyleNode.Precedes
  shared : ∀ sheet i, (ofText sheet css).1 = .ok i → ∀ k l d e, i.get? k = some d → i.get? l = some e →
    (∃ p, d.span.Holds p ∧ e.span.Holds p) →
      ∃ rule, LastForBoth (rulesOf (scan css)) k l rule ∧ rule.span = d.span ∧ rule.span = e.span

/-- What is found for a selector is the span of the last rule that lists it. -/
theorem exists_lastListing_of_get? {sheet : Sheet} {css : String} {i : Index} (h : (ofText sheet css).1 = .ok i)
    {selector : String} {d : Declaration} (hd : i.get? selector = some d) :
    ∃ rule, LastListing (rulesOf (scan css)) selector rule ∧ rule.span = d.span := by
  obtain ⟨-, -, hspans⟩ := ofText_eq_ok h
  unfold get? at hd
  rw [Option.map_eq_some_iff, hspans] at hd
  obtain ⟨span, hspan, rfl⟩ := hd
  cases hc : isClassSelector selector with
  | true => exact (spansOf_eq_some_iff _ hc span).1 hspan
  | false =>
    rw [spansOf_eq_none _ hc] at hspan
    cases hspan

/-- Places in a list of rules whose spans share a position are the same. -/
theorem eq_of_both_hold {rules : List StyleRule} (h : rules.Pairwise fun r s => ¬ s.span.start.before r.span.stop)
    {m n : Nat} {r s : StyleRule} (hr : rules[m]? = some r) (hs : rules[n]? = some s) {p : Position}
    (hrp : r.span.Holds p) (hsp : s.span.Holds p) : m = n := by
  obtain ⟨hm, rfl⟩ := List.getElem?_eq_some_iff.1 hr
  obtain ⟨hn, rfl⟩ := List.getElem?_eq_some_iff.1 hs
  rw [List.pairwise_iff_getElem] at h
  rcases Nat.lt_trichotomy m n with hlt | heq | hlt
  · exact absurd ⟨hrp, hsp⟩ (Span.not_both_hold (h m n hm hn hlt) p)
  · exact heq
  · exact absurd ⟨hsp, hrp⟩ (Span.not_both_hold (h n m hn hm hlt) p)

/-- A rule starts before it stops, and so before a rule that starts no earlier than it stops. -/
theorem start_before_of_lt {rules : List StyleRule} (hrises : ∀ r ∈ rules, r.span.start.before r.span.stop)
    (h : rules.Pairwise fun r s => ¬ s.span.start.before r.span.stop) {m n : Nat} {r s : StyleRule}
    (hr : rules[m]? = some r) (hs : rules[n]? = some s) (hlt : m < n) : r.span.start.before s.span.start := by
  obtain ⟨hm, rfl⟩ := List.getElem?_eq_some_iff.1 hr
  obtain ⟨hn, rfl⟩ := List.getElem?_eq_some_iff.1 hs
  exact Position.before_of_before_of_not_before (hrises _ (List.getElem_mem hm))
    (List.pairwise_iff_getElem.1 h m n hm hn hlt)

theorem lt_iff_start_before {rules : List StyleRule} (hrises : ∀ r ∈ rules, r.span.start.before r.span.stop)
    (h : rules.Pairwise fun r s => ¬ s.span.start.before r.span.stop) {m n : Nat} {r s : StyleRule}
    (hr : rules[m]? = some r) (hs : rules[n]? = some s) : m < n ↔ r.span.start.before s.span.start := by
  refine ⟨start_before_of_lt hrises h hr hs, fun hbefore => ?_⟩
  rcases Nat.lt_trichotomy m n with hlt | heq | hlt
  · exact hlt
  · rw [heq, hs] at hr
    cases hr
    exact absurd hbefore (Position.not_before_self _)
  · exact absurd hbefore (Position.not_before_of_before (start_before_of_lt hrises h hs hr hlt))

/-- Rules that are the last to list their selectors are one rule if their spans share a position. -/
theorem lastForBoth_of_both_hold {rules : List StyleRule}
    (h : rules.Pairwise fun r s => ¬ s.span.start.before r.span.stop) {k l : String} {r s : StyleRule}
    (hr : LastListing rules k r) (hs : LastListing rules l s) {p : Position} (hrp : r.span.Holds p)
    (hsp : s.span.Holds p) : r = s ∧ LastForBoth rules k l r := by
  obtain ⟨before, behind, hrules, hk, hlast⟩ := hr
  obtain ⟨before', behind', hrules', hl, hlast'⟩ := hs
  have hlength : before.length = before'.length :=
    eq_of_both_hold h (by rw [hrules, List.getElem?_append_right (Nat.le_refl _), Nat.sub_self]; rfl)
      (by rw [hrules', List.getElem?_append_right (Nat.le_refl _), Nat.sub_self]; rfl) hrp hsp
  obtain ⟨rfl, hrest⟩ := List.append_inj (hrules.symm.trans hrules') hlength
  obtain ⟨rfl, rfl⟩ := List.cons.inj hrest
  exact ⟨rfl, ⟨before, behind, hrules, fun t ht => ⟨hlast t ht, hlast' t ht⟩⟩, hk, hl⟩

/-- The rules of every stylesheet are in the order of the file, and so are the ranges of its indexes. -/
theorem inOrder_scan (css : String) : InOrder css := by
  have hpairwise := Stylesheet.pairwise_rules css
  have hrises : ∀ r ∈ rulesOf (scan css), r.span.start.before r.span.stop :=
    fun _ => Stylesheet.start_before_stop_of_mem
  refine ⟨hrises, hpairwise.isChain, hpairwise.imp fun h => Span.not_both_hold h,
    fun m n r s => lt_iff_start_before hrises hpairwise,
    ⟨Stylesheet.rulesOf_scan_eq_map css, Stylesheet.pairwise_notedNodes css⟩, ?_⟩
  rintro sheet i hi k l d e hd he ⟨p, hdp, hep⟩
  obtain ⟨r, hr, hrspan⟩ := exists_lastListing_of_get? hi hd
  obtain ⟨s, hs, hsspan⟩ := exists_lastListing_of_get? hi he
  rw [← hrspan] at hdp
  rw [← hsspan] at hep
  obtain ⟨rfl, hboth⟩ := lastForBoth_of_both_hold hpairwise hr hs hdp hep
  exact ⟨r, hboth, hrspan, hsspan⟩

/-- Rules that stand side by side share the place between them, where no character is in both. -/
example : (rulesOf (scan ".a\x7b\x7d@media x\x7b.b,.c\x7b\x7d\x7d.d\x7b")).map (·.span) =
    [⟨⟨0, 0⟩, ⟨0, 4⟩⟩, ⟨⟨0, 13⟩, ⟨0, 20⟩⟩, ⟨⟨0, 21⟩, ⟨0, 25⟩⟩] := by
  decide +kernel

end Index

end ClassAtlas
