/-
Rules one behind the other. The place behind a text never moves back when the text goes on
(`positionAfter_mono`), so that of two rules that are noted, the one that stands first in the stylesheet stops
before the other one starts, or where it starts (`pairwise_rules`).
-/
import ClassAtlas.Proofs.Stylesheet.Placed

namespace ClassAtlas

/-! ## The order of positions -/

namespace Position

variable {p q r : Position}

theorem not_before_self (p : Position) : ¬ p.before p := by
  unfold before
  omega

theorem not_before_trans (hpq : ¬ q.before p) (hqr : ¬ r.before q) : ¬ r.before p := by
  unfold before at *
  omega

theorem before_of_before_of_not_before (hpq : p.before q) (hqr : ¬ r.before q) : p.before r := by
  unfold before at *
  omega

theorem not_before_of_before (h : p.before q) : ¬ q.before p := by
  unfold before at *
  omega

theorem before_right_one (h : ¬ q.before p) : p.before (q.right 1) := by
  unfold before right at *
  dsimp only
  omega

end Position

namespace Stylesheet

/-! ## Places behind a text -/

theorem positionAfter_concat_mono (cs : List Char) (c : Char) :
    ¬ (positionAfter (cs ++ [c])).before (positionAfter cs) := by
  unfold positionAfter Position.before
  rw [lineEnds_concat, lastLine_concat]
  dsimp only
  cases hc : isNewline c with
  | false =>
    simp only [Bool.false_eq_true, false_and, if_false, Text.unitCount_append]
    omega
  | true =>
    by_cases hreturn : c = '\n' ∧ cs.getLast? = some '\r'
    · -- the carriage return has ended the line already
      obtain ⟨ds, rfl⟩ := List.getLast?_eq_some_iff.1 hreturn.2
      have hlast : lastLine (ds ++ ['\r']) = [] := by
        rw [lastLine_concat]
        rfl
      rw [if_neg fun h => h.2 hreturn, if_pos rfl, hlast]
      omega
    · rw [if_pos ⟨rfl, hreturn⟩]
      omega

/-- Behind a longer text is no earlier place. -/
theorem positionAfter_mono (a b : List Char) : ¬ (positionAfter (a ++ b)).before (positionAfter a) := by
  induction b using List.reverseRecOn with
  | nil =>
    rw [List.append_nil]
    exact Position.not_before_self _
  | append_singleton b c ih =>
    rw [← List.append_assoc]
    exact Position.not_before_trans ih (positionAfter_concat_mono _ c)

/-! ## Rules -/

theorem StyleNode.start_before_stop (s : StyleNode) : s.rule.span.start.before s.rule.span.stop := by
  rw [rule_span]
  exact Position.before_right_one (positionAfter_mono _ _)

theorem pairwise_notedNodes (css : String) : (notedNodes css).Pairwise StyleNode.Precedes := by
  obtain ⟨ended, h⟩ := forest_componentsOf (tokens css.toList)
  exact (pairwise_precedes h []).filter _

/-- A rule stops no later than a rule behind it starts. -/
theorem not_before_of_precedes {css : String} {s t : StyleNode} (hs : s ∈ notedNodes css) (ht : t ∈ notedNodes css)
    (h : s.Precedes t) : ¬ t.rule.span.start.before s.rule.span.stop := by
  obtain ⟨between, hbetween⟩ := h
  cases hc : s.closer with
  | some u =>
    rw [((placed_of_mem hs).closed (by rw [hc]; rfl)).2, (placed_of_mem ht).start, ← hbetween]
    exact positionAfter_mono _ _
  | none =>
    -- nothing stands behind a rule that is left open, least of all another rule
    obtain ⟨hall, -⟩ := (placed_of_mem hs).unclosed hc
    obtain ⟨after, hcss⟩ := (placed_of_mem ht).text
    obtain ⟨c, r, hfirst, -⟩ := (placed_of_mem ht).first
    rw [← hall, ← hbetween, hfirst] at hcss
    have hlength := congrArg List.length hcss
    simp only [List.length_append, List.length_cons] at hlength
    omega

/-- The rules of a stylesheet lie one behind the other. -/
theorem pairwise_rules (css : String) :
    (rulesOf (scan css)).Pairwise fun r s => ¬ s.span.start.before r.span.stop := by
  rw [rulesOf_scan_eq_map, List.pairwise_map]
  exact (pairwise_notedNodes css).imp_of_mem fun hs ht h => not_before_of_precedes hs ht h

theorem start_before_stop_of_mem {css : String} {r : StyleRule} (h : r ∈ rulesOf (scan css)) :
    r.span.start.before r.span.stop := by
  rw [rulesOf_scan_eq_map] at h
  obtain ⟨s, -, rfl⟩ := List.mem_map.1 h
  exact s.start_before_stop

end Stylesheet

end ClassAtlas
