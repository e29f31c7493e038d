/-
Where a rule that is noted stands. Its text is a stretch of the stylesheet that does not start with white
space, and its span is told from the text before it and from its own (`placed_of_mem`).
-/
import ClassAtlas.Proofs.Stylesheet.Unclosed

namespace ClassAtlas.Stylesheet

/-- What stands in a stylesheet as a style rule, and which places its span is told from. -/
structure Placed (css : List Char) (s : StyleNode) : Prop where
  text : ∃ after, css = s.before ++ (s.text ++ after)
  first : ∃ c r, s.text = c :: r ∧ isGap c = false
  start : s.rule.span.start = positionAfter s.before
  closed : s.closer.isSome →
    s.text.getLast? = some '\x7d' ∧ s.rule.span.stop = positionAfter (s.before ++ s.text)
  /-- Nothing stands behind a rule whose block is left open, and its span stops one column further. -/
  unclosed : s.closer = none → s.before ++ s.text = css ∧ s.rule.span.stop = (positionAfter css).right 1

theorem rule_span (s : StyleNode) :
    s.rule.span = ⟨positionAfter s.before, (positionAfter (s.before ++ s.openText)).right 1⟩ := by
  unfold StyleNode.rule
  rw [← place_advance, ← place_advance]
  rfl

/-- What does not stand between items does not start with white space. -/
theorem exists_head_of_mem_tokens {cs : List Char} {t : Token} (ht : t ∈ tokens cs) (hb : t.isBetween = false) :
    ∃ c r, t.text = c :: r ∧ isGap c = false := by
  fun_induction tokens cs with
  | case1 => cases ht
  | case2 c r kind n hl ih =>
    rcases List.mem_cons.1 ht with rfl | ht
    · refine ⟨c, _, rfl, ?_⟩
      cases hc : isGap c with
      | false => rfl
      | true =>
        have hgap : (Token.lexeme (c :: r)).1 = .gap := by simp [Token.lexeme, hc]
        rw [hl] at hgap
        dsimp only at hgap
        rw [hgap] at hb
        cases hb
    · exact ih ht

/-- Every rule that is noted has its place in the stylesheet. -/
theorem placed_of_mem {css : String} {s : StyleNode} (hs : s ∈ notedNodes css) : Placed css.toList s := by
  obtain ⟨ended, h⟩ := forest_componentsOf (tokens css.toList)
  have hs' : s ∈ stylesOf (ruleTree css) := (List.mem_filter.1 hs).1
  have hall : textIn (componentsOf (tokens css.toList)) = css.toList := by
    rw [textIn, tokensOf_componentsOf]
    exact flatMap_text_tokens css.toList
  have hl := located_of_mem h hs'
  obtain ⟨left, right, hts, hbefore⟩ := hl.split
  have hmem : ∀ t ∈ s.tokens, t ∈ tokens css.toList := by
    intro t ht
    rw [← tokensOf_componentsOf (tokens css.toList), hts]
    simp [ht]
  refine ⟨⟨textOf right, ?_⟩, ?_, by rw [rule_span], fun hc => ?_, fun hu => ?_⟩
  · rw [← hall, textIn, hts, hbefore, StyleNode.text, textOf_append, textOf_append, List.append_assoc]
    rfl
  · obtain ⟨t, ts, hcons⟩ : ∃ t ts, s.tokens = t :: ts :=
      List.exists_cons_of_ne_nil (by simp [StyleNode.tokens])
    have ht := hmem t (by rw [hcons]; exact List.mem_cons_self)
    obtain ⟨c, r, htext, hc⟩ := exists_head_of_mem_tokens ht (hl.first t (by rw [hcons]; rfl))
    refine ⟨c, r ++ textOf ts, ?_, hc⟩
    rw [StyleNode.text, hcons, textOf, List.flatMap_cons, htext]
    rfl
  · obtain ⟨u, hu⟩ := Option.isSome_iff_exists.1 hc
    -- the closing bracket takes the one column by which the span goes further than the open text
    have hbracket := text_of_closes (hmem u (by simp [StyleNode.tokens, hu])) (hl.closer u hu)
    rw [rule_span, text_of_closer hu, hbracket, List.getLast?_concat, ← List.append_assoc,
      positionAfter_concat rfl rfl]
    exact ⟨rfl, rfl⟩
  · have hend : s.before ++ s.openText = css.toList := (text_of_unclosed h hs' hu).2.trans hall
    have htext : s.text = s.openText := by
      unfold StyleNode.text StyleNode.openText StyleNode.tokens
      rw [hu]
      simp
    rw [rule_span, htext, hend]
    exact ⟨rfl, rfl⟩

end ClassAtlas.Stylesheet
