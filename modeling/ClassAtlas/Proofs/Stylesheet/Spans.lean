/-
Spans of style rules. A style rule of a tree stands in its stylesheet as it was written, behind the
text that its node has before it (`located_of_mem`). The span that it is noted with starts right
behind that text, and if its block is closed, the span stops right behind the closing bracket
(`spans_exact`).
-/
import ClassAtlas.Proofs.Stylesheet.Lexeme
import ClassAtlas.Proofs.Stylesheet.Place
import ClassAtlas.Proofs.Stylesheet.Walk
import Mathlib.Data.List.Forall2

namespace ClassAtlas.Stylesheet

/-! ## Closing brackets -/

/-- The kind and length of what starts with a character: if it closes a block, it is a bracket. -/
def ClosesAlone (c : Char) (l : Token.Kind × Nat) : Prop :=
  l.1 = .closing .curly → c = '\x7d' ∧ l.2 = 1

theorem closesAlone_lexeme (c : Char) (r : List Char) : ClosesAlone c (Token.lexeme (c :: r)) := by
  intro hk
  have hstart := Token.starts_lexeme c r
  generalize Token.lexeme (c :: r) = l at hstart hk ⊢
  cases hstart with
  | blockEnd hc => exact ⟨hc, rfl⟩
  | inner hi => rw [hk] at hi; cases hi
  | _ => cases hk

/-- The token that closes a block is written as a bracket. -/
theorem text_of_closes {cs : List Char} {t : Token} (ht : t ∈ tokens cs) (hc : t.closes .curly = true) :
    t.text = ['\x7d'] := by
  fun_induction tokens cs with
  | case1 => cases ht
  | case2 c r kind n hl ih =>
    rcases List.mem_cons.1 ht with rfl | ht
    · have hk : kind = .closing .curly := by simpa [Token.closes] using hc
      have h := closesAlone_lexeme c r
      rw [hl] at h
      obtain ⟨rfl, hn⟩ := h hk
      dsimp only at hn
      rw [hn]
      rfl
    · exact ih ht

/-! ## Where style rules stand -/

/-- A style rule stands among some tokens: its own tokens are part of them, it has before it the text
before the tokens and that of the tokens on its left, it does not start with what may stand between
items, and its block is closed by a bracket of its kind, if at all. -/
structure Located (before : List Char) (ts : List Token) (s : StyleNode) : Prop where
  split : ∃ left right, ts = left ++ s.tokens ++ right ∧ s.before = before ++ textOf left
  first : ∀ t ∈ s.tokens.head?, t.isBetween = false
  closer : ∀ u ∈ s.closer, u.closes .curly = true

theorem textOf_append (a b : List Token) : textOf (a ++ b) = textOf a ++ textOf b :=
  List.flatMap_append

/-- What stands among some tokens stands among more. -/
theorem Located.extend {before : List Char} {left ts : List Token} {s : StyleNode}
    (h : Located (before ++ textOf left) ts s) (right : List Token) : Located before (left ++ ts ++ right) s where
  split := by
    obtain ⟨l, r, rfl, hb⟩ := h.split
    exact ⟨left ++ l, r ++ right, by simp, by rw [hb, textOf_append, List.append_assoc]⟩
  first := h.first
  closer := h.closer

/-- Every style rule that a walk through a tree comes to stands among the tokens of the tree. -/
theorem located_of_mem {within : Option Bracket} {ended : Bool} {F : List Component}
    (h : Forest within ended F) {before : List Char} {s : StyleNode} (hs : s ∈ stylesOf (rulesIn before F)) :
    Located before (tokensOf F) s := by
  fun_induction rulesIn before F generalizing within ended with
  | case1 before F gap hF => rw [stylesOf] at hs; cases hs
  | case2 before F gap c rest hF hk prelude hr =>
    simp [stylesOf, Node.styles] at hs
  | case3 before F gap c rest hF hk prelude u more hr ih =>
    obtain ⟨_, hmore⟩ := h.behind_atRule hF hr
    rw [stylesOf, Node.styles, List.nil_append] at hs
    have hl := (ih hmore hs).extend []
    rw [← append_of_span_eq hF, ← append_of_span_eq hr]
    simpa [tokensOf] using hl
  | case4 before F gap c rest hF hk prelude o inside closer more hr ihi ih =>
    obtain ⟨_, hmore⟩ := h.behind_atRule hF hr
    obtain ⟨_, _, hinside⟩ := h.inside_atRule hF hr
    rw [← append_of_span_eq hF, ← append_of_span_eq hr]
    rw [stylesOf, Node.styles, List.mem_append] at hs
    rcases hs with hs | hs
    · have hs' : s ∈ stylesOf (rulesIn (before ++ (textIn (gap ++ c :: prelude) ++ o.text)) inside) := by
        split at hs
        · exact hs
        · cases hs
      have hl := ihi hinside hs'
      have hbefore : textIn (gap ++ c :: prelude) ++ o.text = textOf (tokensOf (gap ++ c :: prelude) ++ [o]) := by
        simp [textIn, textOf]
      rw [hbefore] at hl
      have hl := hl.extend (closer.toList ++ tokensOf more)
      simpa [tokensOf, Component.tokens] using hl
    · have hl := (ih hmore hs).extend []
      simpa [tokensOf] using hl
  | case5 before F gap c rest hF hk prelude o inside closer more hr ih =>
    obtain ⟨e, hc⟩ := (h.of_span_eq hF).2
    obtain ⟨⟨_, hprelude⟩, e', hgroup⟩ := hc.of_span_eq hr
    obtain ⟨_, hmore⟩ := hgroup.tail
    rw [stylesOf, Node.styles, List.singleton_append, List.mem_cons] at hs
    rcases hs with rfl | hs
    · refine ⟨⟨tokensOf gap, tokensOf more, ?_, rfl⟩, ?_, ?_⟩
      · rw [← append_of_span_eq hF, ← append_of_span_eq hr]
        simp [StyleNode.tokens]
      · obtain ⟨ts, hts⟩ := tokensOf_cons c rest
        rw [← append_of_span_eq hr] at hts
        have hbetween := of_span_eq_cons hF
        -- the first token is that of the prelude, or the opener if the prelude is empty
        cases prelude with
        | nil =>
          rw [List.nil_append, tokensOf_group] at hts
          rintro t ⟨⟩
          rw [(List.cons.inj hts).1]
          exact hbetween
        | cons d prelude =>
          obtain ⟨ts', hts'⟩ := tokensOf_cons d prelude
          have ht : d.head = c.head := by
            rw [tokensOf_append, hts'] at hts
            exact (List.cons.inj hts).1
          unfold StyleNode.tokens
          rw [hts']
          rintro t ⟨⟩
          rw [ht]
          exact hbetween
      · have hopen : o.opensBlock = true := by
          have := of_span_eq_cons hr
          rwa [Bool.not_eq_false'] at this
        exact hgroup.closes hopen
    · have hl := (ih hmore hs).extend []
      rw [← append_of_span_eq hF, ← append_of_span_eq hr]
      simpa using hl
  | case6 before F gap c rest hF hk prelude more hg hr =>
    simp [stylesOf, Node.styles] at hs

/-! ## Order -/

/-- A style rule ends before another one starts. -/
def StyleNode.Precedes (s t : StyleNode) : Prop :=
  s.before ++ s.text <+: t.before

theorem Located.prefix_before {before : List Char} {ts : List Token} {s : StyleNode} (h : Located before ts s) :
    before <+: s.before := by
  obtain ⟨left, right, -, hbefore⟩ := h.split
  exact ⟨textOf left, hbefore.symm⟩

theorem Located.prefix_text {before : List Char} {ts : List Token} {s : StyleNode} (h : Located before ts s) :
    s.before ++ s.text <+: before ++ textOf ts := by
  obtain ⟨left, right, rfl, hbefore⟩ := h.split
  refine ⟨textOf right, ?_⟩
  rw [hbefore, StyleNode.text, textOf_append, textOf_append, List.append_assoc, List.append_assoc, List.append_assoc]

/-- A walk through a tree comes to the style rules in the order in which they stand in the stylesheet. -/
theorem pairwise_precedes {within : Option Bracket} {ended : Bool} {F : List Component}
    (h : Forest within ended F) (before : List Char) :
    (stylesOf (rulesIn before F)).Pairwise StyleNode.Precedes := by
  fun_induction rulesIn before F generalizing within ended with
  | case1 before F gap hF => exact .nil
  | case2 before F gap c rest hF hk prelude hr => exact .nil
  | case3 before F gap c rest hF hk prelude u more hr ih =>
    obtain ⟨_, hmore⟩ := h.behind_atRule hF hr
    exact ih hmore
  | case4 before F gap c rest hF hk prelude o inside closer more hr ihi ih =>
    obtain ⟨_, hmore⟩ := h.behind_atRule hF hr
    obtain ⟨_, _, hinside⟩ := h.inside_atRule hF hr
    rw [stylesOf, Node.styles]
    refine List.pairwise_append.2 ⟨?_, ih hmore, fun s hs t ht => ?_⟩
    · split
      · exact ihi hinside
      · exact .nil
    · have hs' : s ∈ stylesOf (rulesIn (before ++ (textIn (gap ++ c :: prelude) ++ o.text)) inside) := by
        split at hs
        · exact hs
        · cases hs
      refine (located_of_mem hinside hs').prefix_text.trans (.trans ?_ (located_of_mem hmore ht).prefix_before)
      exact ⟨textOf closer.toList, by simp [textIn, textOf, tokensOf, Component.tokens]⟩
  | case5 before F gap c rest hF hk prelude o inside closer more hr ih =>
    obtain ⟨_, hmore⟩ := h.behind_style hF hr
    rw [stylesOf, Node.styles, List.singleton_append]
    refine List.pairwise_cons.2 ⟨fun t ht => .trans ?_ (located_of_mem hmore ht).prefix_before, ih hmore⟩
    exact ⟨[], by simp [textIn, textOf, StyleNode.text, StyleNode.tokens]⟩
  | case6 before F gap c rest hF hk prelude more hg hr => exact .nil

/-! ## Spans -/

/-- The style rules of a stylesheet that are noted, as nodes of its tree. -/
def notedNodes (css : String) : List StyleNode :=
  (stylesOf (ruleTree css)).filter fun s => !s.isDeclaration

theorem rulesOf_scan_eq_map (css : String) : rulesOf (scan css) = (notedNodes css).map StyleNode.rule := by
  obtain ⟨ended, h⟩ := forest_componentsOf (tokens css.toList)
  have hscan := rulesOf_scanList h []
  rwa [tokensOf_componentsOf] at hscan

/-- A rule is noted with the exact span of a node. -/
structure ExactSpan (css : String) (r : StyleRule) (s : StyleNode) : Prop where
  /-- The node stands in the stylesheet as it was written. -/
  text : ∃ after, css.toList = s.before ++ s.text ++ after
  /-- It starts with its prelude, or with its block if that is empty: not with white space, a comment
  or a mark such as `<!--`. -/
  first : ∀ t ∈ s.tokens.head?, t.isBetween = false
  /-- The span starts right behind all that stands before the node. -/
  start : r.span.start = positionAfter s.before
  /-- The column that is told for the start can be taken down by one. -/
  column : 1 ≤ (Mark.start.advance s.before).location.column
  /-- If the block is closed, the span stops right behind the closing bracket. -/
  stop : ∀ u ∈ s.closer, u.text = ['\x7d'] ∧ s.text.getLast? = some '\x7d' ∧
    r.span.stop = positionAfter (s.before ++ s.text)

theorem text_of_closer {s : StyleNode} {u : Token} (hu : s.closer = some u) : s.text = s.openText ++ u.text := by
  unfold StyleNode.text StyleNode.openText StyleNode.tokens
  rw [hu]
  simp [textOf]

/-- Every rule that a scan notes has the exact span of its node. -/
theorem spans_exact (css : String) : List.Forall₂ (ExactSpan css) (rulesOf (scan css)) (notedNodes css) := by
  obtain ⟨ended, h⟩ := forest_componentsOf (tokens css.toList)
  have hscan := rulesOf_scanList h []
  rw [tokensOf_componentsOf] at hscan
  have hrules : rulesOf (scan css) = (notedNodes css).map StyleNode.rule := hscan
  rw [hrules, List.forall₂_map_left_iff, List.forall₂_same]
  intro s hs
  have hl := located_of_mem h (List.mem_filter.1 hs).1
  rw [tokensOf_componentsOf] at hl
  obtain ⟨left, right, hts, hbefore⟩ := hl.split
  rw [List.nil_append] at hbefore
  refine ⟨⟨textOf right, ?_⟩, hl.first, ?_, ?_, ?_⟩
  · rw [← flatMap_text_tokens css.toList, hts, hbefore, StyleNode.text, ← textOf_append, ← textOf_append]
    rfl
  · rw [← place_advance]
    rfl
  · exact Nat.le_add_left 1 _
  · intro u hu
    have hmem : u ∈ tokens css.toList := by
      rw [hts]
      simp [StyleNode.tokens, Option.mem_toList.2 hu]
    have hu' := text_of_closes hmem (hl.closer u hu)
    have htext := text_of_closer hu
    rw [hu'] at htext
    refine ⟨hu', by rw [htext, List.getLast?_concat], ?_⟩
    -- the told column of the bracket, counted from one, is the column behind it, counted from zero
    rw [htext, ← List.append_assoc, positionAfter_concat rfl rfl, ← place_advance]
    rfl

end ClassAtlas.Stylesheet
