/-
Rules that nothing closes. A rule whose block is still open at the end of the stylesheet is the last
thing in it: the text before the rule and its own text are the whole stylesheet (`text_of_unclosed`).
-/
import ClassAtlas.Proofs.Stylesheet.Spans

namespace ClassAtlas.Stylesheet

/-! ## Forests that break off -/

section Forests

variable {within : Option Bracket} {ended : Bool} {F : List Component} {c : Component}

/-- If what follows a component breaks off, so does the whole. -/
theorem Forest.ended_of_tail {r : List Component} (h : Forest within ended (c :: r)) :
    ∃ ended', Forest within ended' r ∧ (ended' = false → ended = false) := by
  cases h with
  | leaf _ _ h => exact ⟨ended, h, id⟩
  | closed _ _ _ h => exact ⟨ended, h, id⟩
  | unclosed _ _ => exact ⟨true, .nil _, nofun⟩

/-- If what is left behind a first part breaks off, so does the whole. -/
theorem Forest.ended_of_span_eq {p : Component → Bool} {a b : List Component} (h : Forest within ended F)
    (hs : F.span p = (a, b)) : ∃ ended', Forest within ended' b ∧ (ended' = false → ended = false) := by
  rw [← append_of_span_eq hs] at h
  clear hs
  induction a generalizing ended with
  | nil => exact ⟨ended, h, id⟩
  | cons c r ih =>
    obtain ⟨e, hr, he⟩ := h.ended_of_tail
    obtain ⟨e', hb, he'⟩ := ih hr
    exact ⟨e', hb, he ∘ he'⟩

/-- If what is left where an at-rule ends breaks off, so does the whole. -/
theorem Forest.ended_of_atRule {p q : Component → Bool} {gap rest prelude more : List Component} {d : Component}
    (h : Forest within ended F) (hF : F.span p = (gap, c :: rest)) (hr : rest.span q = (prelude, d :: more)) :
    ∃ ended', Forest within ended' (d :: more) ∧ (ended' = false → ended = false) := by
  obtain ⟨e, hc, he⟩ := h.ended_of_span_eq hF
  obtain ⟨e', hrest, he'⟩ := hc.ended_of_tail
  obtain ⟨e'', hd, he''⟩ := hrest.ended_of_span_eq hr
  exact ⟨e'', hd, he ∘ he' ∘ he''⟩

/-- A group whose inside breaks off is not closed, and nothing comes behind it. -/
theorem Forest.unclosed_of_inside {o : Token} {inside r : List Component} {closer : Option Token}
    (h : Forest within ended (.group o inside closer :: r)) :
    ∃ b ended', Forest (some b) ended' inside ∧ (ended' = false → closer = none) ∧
      (closer = none → r = [] ∧ ended = false) := by
  cases h with
  | closed _ h _ _ => exact ⟨_, true, h, nofun, nofun⟩
  | unclosed _ h => exact ⟨_, _, h, fun _ => rfl, fun _ => ⟨rfl, rfl⟩⟩

end Forests

/-! ## Rules at the end -/

theorem textIn_append (a b : List Component) : textIn (a ++ b) = textIn a ++ textIn b := by
  unfold textIn
  rw [tokensOf_append, textOf_append]

theorem textIn_unclosed (o : Token) (inside : List Component) :
    textIn [.group o inside none] = o.text ++ textIn inside := by
  simp [textIn, textOf]

/-- A rule that nothing closes stands at the end of a list that breaks off. -/
theorem text_of_unclosed {within : Option Bracket} {ended : Bool} {F : List Component}
    (h : Forest within ended F) {before : List Char} {s : StyleNode} (hs : s ∈ stylesOf (rulesIn before F))
    (hu : s.closer = none) : ended = false ∧ s.before ++ s.openText = before ++ textIn F := by
  fun_induction rulesIn before F generalizing within ended with
  | case1 before F gap hF => rw [stylesOf] at hs; cases hs
  | case2 before F gap c rest hF hk prelude hr => simp [stylesOf, Node.styles] at hs
  | case3 before F gap c rest hF hk prelude u more hr ih =>
    obtain ⟨e, hleaf, he⟩ := h.ended_of_atRule hF hr
    obtain ⟨e', hmore, he'⟩ := hleaf.ended_of_tail
    rw [stylesOf, Node.styles, List.nil_append] at hs
    obtain ⟨hend, htext⟩ := ih hmore hs
    refine ⟨he (he' hend), ?_⟩
    rw [htext, ← append_of_span_eq hF, ← append_of_span_eq hr, List.append_assoc, ← textIn_append]
    simp
  | case4 before F gap c rest hF hk prelude o inside closer more hr ihi ih =>
    obtain ⟨e, hgroup, he⟩ := h.ended_of_atRule hF hr
    obtain ⟨e', hmore, he'⟩ := hgroup.ended_of_tail
    rw [stylesOf, Node.styles, List.mem_append] at hs
    rw [← append_of_span_eq hF, ← append_of_span_eq hr]
    rcases hs with hs | hs
    · -- a rule in the block that is not closed leaves the block open too, so that nothing follows it
      have hs' : s ∈ stylesOf (rulesIn (before ++ (textIn (gap ++ c :: prelude) ++ o.text)) inside) := by
        split at hs
        · exact hs
        · cases hs
      obtain ⟨b, ei, hinside, hnone, hlast⟩ := hgroup.unclosed_of_inside
      obtain ⟨hend, htext⟩ := ihi hinside hs'
      obtain ⟨rfl, hend'⟩ := hlast (hnone hend)
      refine ⟨he hend', ?_⟩
      rw [htext, hnone hend, List.append_assoc, List.append_assoc, ← textIn_unclosed, ← textIn_append]
      simp
    · obtain ⟨hend, htext⟩ := ih hmore hs
      refine ⟨he (he' hend), ?_⟩
      rw [htext, List.append_assoc, ← textIn_append]
      simp
  | case5 before F gap c rest hF hk prelude o inside closer more hr ih =>
    obtain ⟨e, hc, he⟩ := h.ended_of_span_eq hF
    obtain ⟨e', hgroup, he'⟩ := hc.ended_of_span_eq hr
    obtain ⟨e'', hmore, he''⟩ := hgroup.ended_of_tail
    rw [stylesOf, Node.styles, List.singleton_append, List.mem_cons] at hs
    rw [← append_of_span_eq hF, ← append_of_span_eq hr]
    rcases hs with rfl | hs
    · obtain ⟨b, ei, hinside, -, hlast⟩ := hgroup.unclosed_of_inside
      have hnone : closer = none := hu
      obtain ⟨rfl, hend⟩ := hlast hu
      refine ⟨he (he' hend), ?_⟩
      rw [hnone]
      simp [StyleNode.openText, textIn, textOf]
    · obtain ⟨hend, htext⟩ := ih hmore hs
      refine ⟨he (he' (he'' hend)), ?_⟩
      rw [htext]
      simp [textIn, textOf]
  | case6 before F gap c rest hF hk prelude more hg hr => simp [stylesOf, Node.styles] at hs

end ClassAtlas.Stylesheet
