/-
What a scan rejects. In the tree of a stylesheet it is the style rules that read as declarations, and the
preludes that end a rule list before a block; at-rules are never rejected (`rejections_scan`). A rule list
has at most one such prelude, at its end (`ruleList_of_mem`), so that as many pieces are rejected as there
are declarations and rule lists that end so (`length_rejectionsOf_scan`).
-/
import ClassAtlas.Proofs.Stylesheet.Walk
import Mathlib.Algebra.GroupWithZero.Nat

namespace ClassAtlas.Stylesheet

/-! ## Rejected nodes -/

mutual

/-- What is rejected in a node, in the order of the stylesheet. -/
def Node.rejected : Node → List (List Token)
  | .block keyword _ rules => if keyword.isGrouping then rejectedIn rules else []
  | .style s => if s.isDeclaration then [s.tokens] else []
  | .unfinished prelude => [tokensOf prelude]
  | .statement _ _ => []

/-- What is rejected in some nodes, in the order of the stylesheet. -/
def rejectedIn : List Node → List (List Token)
  | [] => []
  | n :: r => n.rejected ++ rejectedIn r

end

/-- The text that is told of a rejected piece. -/
def pieceText (ts : List Token) : String :=
  .ofList (Text.trim (textOf ts))

theorem tells_rejected : Tells (fun | .rejection r => some r.text | .rule _ => none)
    (fun n => n.rejected.map pieceText) (fun nodes => (rejectedIn nodes).map pieceText) where
  nil := by rw [rejectedIn, List.map_nil]
  cons n r := by rw [rejectedIn, List.map_append]
  statement _ _ := by rw [Node.rejected, List.map_nil]
  block keyword _ rules := by
    rw [Node.rejected]
    split <;> rfl
  style {_ _ s} _ := by
    rw [Node.rejected, StyleNode.isDeclaration]
    unfold Finding.ofPrelude
    cases readsAsDeclaration (tokensOf s.prelude) <;> rfl
  unfinished _ prelude := by
    rw [Node.rejected]
    unfold Finding.ofPrelude
    cases readsAsDeclaration (tokensOf prelude) <;> rfl

/-- The pieces that a scan rejects are those of the tree that are no at-rules and no style rules. -/
theorem rejections_scan (css : String) :
    (rejectionsOf (scan css)).map Rejection.text = (rejectedIn (ruleTree css)).map pieceText := by
  obtain ⟨ended, h⟩ := forest_componentsOf (tokens css.toList)
  have hscan := tells_rejected.filterMap_scanList h []
  rw [tokensOf_componentsOf] at hscan
  rw [ruleTree, ← hscan, rejectionsOf, List.map_filterMap]
  refine congrArg (fun select => List.filterMap select _) (funext fun found => ?_)
  cases found <;> rfl

/-! ## Rule lists -/

mutual

/-- The rule lists in the block of a node, at any depth. -/
def Node.lists : Node → List (List Node)
  | .block keyword _ rules => if keyword.isGrouping then rules :: listsBelow rules else []
  | .style _ => []
  | .unfinished _ => []
  | .statement _ _ => []

/-- The rule lists in the blocks of some nodes, at any depth. -/
def listsBelow : List Node → List (List Node)
  | [] => []
  | n :: r => n.lists ++ listsBelow r

end

/-- The rule lists of a stylesheet: its own, and those in the blocks of at-rules that hold rules. -/
def ruleLists (css : String) : List (List Node) :=
  ruleTree css :: listsBelow (ruleTree css)

/-- What is left of a rule list that ends before a block. -/
def Node.isUnfinished : Node → Bool
  | .unfinished _ => true
  | _ => false

/-- Whether a rule list ends before a block. -/
def endsUnfinished (nodes : List Node) : Bool :=
  nodes.getLast?.any Node.isUnfinished

/-- A rule list of a stylesheet is read from some components of it. Only its last node may be unfinished, and
that is then all that is left of the components, without a block. -/
structure RuleList (css : List Char) (nodes : List Node) : Prop where
  last : ∀ n ∈ nodes.dropLast, n.isUnfinished = false
  read : ∃ before F right, css = before ++ (textIn F ++ right) ∧ nodes = rulesIn before F ∧
    ∀ prelude, .unfinished prelude ∈ nodes →
      prelude ≠ [] ∧ prelude <:+ F ∧ ∀ c ∈ prelude, c.head.opensBlock = false

theorem last_cons {n : Node} {r : List Node} (hn : n.isUnfinished = false)
    (hr : ∀ m ∈ r.dropLast, m.isUnfinished = false) : ∀ m ∈ (n :: r).dropLast, m.isUnfinished = false := by
  cases r with
  | nil => exact fun m hm => absurd hm List.not_mem_nil
  | cons m r => exact List.forall_mem_cons.2 ⟨hn, hr⟩

/-- Only the last node of a rule list may be unfinished. -/
theorem last_rulesIn (before : List Char) (F : List Component) :
    ∀ n ∈ (rulesIn before F).dropLast, n.isUnfinished = false := by
  fun_induction rulesIn before F with
  | case1 => exact fun n hn => absurd hn List.not_mem_nil
  | case2 => exact fun n hn => absurd hn List.not_mem_nil
  | case3 before F gap c rest hF hk prelude u more hr ih => exact last_cons rfl ih
  | case4 before F gap c rest hF hk prelude o inside closer more hr ihi ih => exact last_cons rfl ih
  | case5 before F gap c rest hF hk prelude o inside closer more hr ih => exact last_cons rfl ih
  | case6 => exact fun n hn => absurd hn List.not_mem_nil

/-- An unfinished node is all that is left of its rule list, and no block starts in it. -/
theorem unfinished_rulesIn {within : Option Bracket} {ended : Bool} {F : List Component} (h : Forest within ended F)
    {before : List Char} {prelude : List Component} (hmem : .unfinished prelude ∈ rulesIn before F) :
    prelude ≠ [] ∧ prelude <:+ F ∧ ∀ c ∈ prelude, c.head.opensBlock = false := by
  fun_induction rulesIn before F generalizing within ended with
  | case1 before F gap hF => cases hmem
  | case2 before F gap c rest hF hk _ hr => cases List.mem_singleton.1 hmem
  | case3 before F gap c rest hF hk p u more hr ih =>
    obtain ⟨_, hmore⟩ := h.behind_atRule hF hr
    obtain ⟨hne, hsuffix, hno⟩ := ih hmore ((List.mem_cons.1 hmem).resolve_left (by rintro ⟨⟩))
    refine ⟨hne, hsuffix.trans ⟨gap ++ c :: (p ++ [.leaf u]), ?_⟩, hno⟩
    rw [← append_of_span_eq hF, ← append_of_span_eq hr]
    simp
  | case4 before F gap c rest hF hk p o inside closer more hr ihi ih =>
    obtain ⟨_, hmore⟩ := h.behind_atRule hF hr
    obtain ⟨hne, hsuffix, hno⟩ := ih hmore ((List.mem_cons.1 hmem).resolve_left (by rintro ⟨⟩))
    refine ⟨hne, hsuffix.trans ⟨gap ++ c :: (p ++ [.group o inside closer]), ?_⟩, hno⟩
    rw [← append_of_span_eq hF, ← append_of_span_eq hr]
    simp
  | case5 before F gap c rest hF hk p o inside closer more hr ih =>
    obtain ⟨_, hmore⟩ := h.behind_style hF hr
    obtain ⟨hne, hsuffix, hno⟩ := ih hmore ((List.mem_cons.1 hmem).resolve_left (by rintro ⟨⟩))
    refine ⟨hne, hsuffix.trans ⟨gap ++ (p ++ [.group o inside closer]), ?_⟩, hno⟩
    rw [← append_of_span_eq hF, ← append_of_span_eq hr]
    simp
  | case6 before F gap c rest hF hk p more hg hr =>
    cases List.mem_singleton.1 hmem
    obtain ⟨e, hc⟩ := (h.of_span_eq hF).2
    obtain rfl := hc.eq_nil_of_span hr hg
    have hall := append_of_span_eq hr
    rw [List.append_nil] at hall
    rw [List.span_eq_takeWhile_dropWhile, Prod.mk.injEq] at hr
    refine ⟨hall ▸ List.cons_ne_nil c rest, ⟨gap, by rw [hall, append_of_span_eq hF]⟩, fun d hd => ?_⟩
    rw [← hr.1] at hd
    have hno := List.all_eq_true.1 List.all_takeWhile d hd
    rwa [Bool.not_eq_true'] at hno

/-- The rule lists in the blocks of a rule list are read from what the blocks hold. -/
theorem exists_of_mem_listsBelow {within : Option Bracket} {ended : Bool} {F : List Component}
    (h : Forest within ended F) {before : List Char} {nodes : List Node} (hmem : nodes ∈ listsBelow (rulesIn before F)) :
    ∃ within' ended' before' F' right, Forest within' ended' F' ∧ nodes = rulesIn before' F' ∧
      before ++ textIn F = before' ++ (textIn F' ++ right) := by
  fun_induction rulesIn before F generalizing within ended with
  | case1 before F gap hF => cases hmem
  | case2 before F gap c rest hF hk prelude hr =>
    rw [listsBelow, Node.lists] at hmem
    cases hmem
  | case3 before F gap c rest hF hk prelude u more hr ih =>
    obtain ⟨_, hmore⟩ := h.behind_atRule hF hr
    rw [listsBelow, Node.lists, List.nil_append] at hmem
    obtain ⟨w', e', before', F', right, hF', hnodes, htext⟩ := ih hmore hmem
    refine ⟨w', e', before', F', right, hF', hnodes, ?_⟩
    rw [← htext, ← append_of_span_eq hF, ← append_of_span_eq hr]
    simp [textIn, textOf, tokensOf]
  | case4 before F gap c rest hF hk prelude o inside closer more hr ihi ih =>
    obtain ⟨_, hmore⟩ := h.behind_atRule hF hr
    obtain ⟨b, ei, hinside⟩ := h.inside_atRule hF hr
    rw [listsBelow, Node.lists, List.mem_append] at hmem
    rw [← append_of_span_eq hF, ← append_of_span_eq hr]
    rcases hmem with hmem | hmem
    · have hmem' : nodes ∈ rulesIn (before ++ (textIn (gap ++ c :: prelude) ++ o.text)) inside ::
          listsBelow (rulesIn (before ++ (textIn (gap ++ c :: prelude) ++ o.text)) inside) := by
        split at hmem
        · exact hmem
        · cases hmem
      have hall : before ++ textIn (gap ++ c :: (prelude ++ Component.group o inside closer :: more)) =
          before ++ (textIn (gap ++ c :: prelude) ++ o.text) ++
            (textIn inside ++ (textOf closer.toList ++ textIn more)) := by
        simp [textIn, textOf, tokensOf, Component.tokens]
      rcases List.mem_cons.1 hmem' with rfl | hbelow
      · exact ⟨some b, ei, _, inside, _, hinside, rfl, hall⟩
      · obtain ⟨w', e', before', F', right, hF', hnodes, htext⟩ := ihi hinside hbelow
        refine ⟨w', e', before', F', right ++ (textOf closer.toList ++ textIn more), hF', hnodes, ?_⟩
        rw [hall, ← List.append_assoc _ (textIn inside), htext]
        simp
    · obtain ⟨w', e', before', F', right, hF', hnodes, htext⟩ := ih hmore hmem
      refine ⟨w', e', before', F', right, hF', hnodes, ?_⟩
      rw [← htext]
      simp [textIn, textOf, tokensOf, Component.tokens]
  | case5 before F gap c rest hF hk prelude o inside closer more hr ih =>
    obtain ⟨_, hmore⟩ := h.behind_style hF hr
    rw [listsBelow, Node.lists, List.nil_append] at hmem
    obtain ⟨w', e', before', F', right, hF', hnodes, htext⟩ := ih hmore hmem
    refine ⟨w', e', before', F', right, hF', hnodes, ?_⟩
    rw [← htext, ← append_of_span_eq hF, ← append_of_span_eq hr]
    simp [textIn, textOf, tokensOf, Component.tokens]
  | case6 before F gap c rest hF hk prelude more hg hr =>
    rw [listsBelow, Node.lists] at hmem
    cases hmem

theorem ruleList_of_mem {css : String} {nodes : List Node} (h : nodes ∈ ruleLists css) :
    RuleList css.toList nodes := by
  obtain ⟨ended, hforest⟩ := forest_componentsOf (tokens css.toList)
  have hall : textIn (componentsOf (tokens css.toList)) = css.toList := by
    rw [textIn, tokensOf_componentsOf]
    exact flatMap_text_tokens css.toList
  obtain ⟨within, ended, before, F, right, hF, rfl, htext⟩ : ∃ within ended before F right, Forest within ended F ∧
      nodes = rulesIn before F ∧ css.toList = before ++ (textIn F ++ right) := by
    rcases List.mem_cons.1 h with rfl | hbelow
    · exact ⟨none, ended, [], _, [], hforest, rfl, by rw [List.nil_append, List.append_nil, hall]⟩
    · rw [← hall]
      exact exists_of_mem_listsBelow hforest hbelow
  exact ⟨last_rulesIn before F, before, F, right, htext, rfl, fun prelude hmem => unfinished_rulesIn hF hmem⟩

/-! ## Numbers -/

theorem RuleList.countP_isUnfinished {css : List Char} {nodes : List Node} (h : RuleList css nodes) :
    nodes.countP Node.isUnfinished = if endsUnfinished nodes then 1 else 0 := by
  rcases List.eq_nil_or_concat nodes with rfl | ⟨init, n, rfl⟩
  · rfl
  · have hinit : init.countP Node.isUnfinished = 0 := by
      rw [List.countP_eq_zero]
      intro m hm
      have hlast := h.last m
      rw [List.concat_eq_append, List.dropLast_concat] at hlast
      rw [hlast hm]
      exact Bool.false_ne_true
    rw [List.concat_eq_append, List.countP_append, hinit, Nat.zero_add, List.countP_singleton, endsUnfinished,
      List.getLast?_concat, Option.any_some]

mutual

theorem Node.length_rejected : (n : Node) → n.rejected.length =
    n.styles.countP StyleNode.isDeclaration + (n.lists.map (List.countP Node.isUnfinished)).sum +
      if n.isUnfinished then 1 else 0
  | .block keyword _ rules => by
    have hrules := length_rejectedIn rules
    rw [Node.rejected, Node.styles, Node.lists]
    split
    · rw [hrules, List.map_cons, List.sum_cons]
      simp only [Node.isUnfinished, Bool.false_eq_true, if_false]
      omega
    · rfl
  | .style s => by
    rw [Node.rejected, Node.styles, Node.lists]
    cases hs : s.isDeclaration with
    | true => simp [hs, Node.isUnfinished]
    | false => simp [hs, Node.isUnfinished]
  | .unfinished _ => by
    rw [Node.rejected, Node.styles, Node.lists]
    rfl
  | .statement _ _ => by
    rw [Node.rejected, Node.styles, Node.lists]
    rfl

theorem length_rejectedIn : (nodes : List Node) → (rejectedIn nodes).length =
    (stylesOf nodes).countP StyleNode.isDeclaration + ((listsBelow nodes).map (List.countP Node.isUnfinished)).sum +
      nodes.countP Node.isUnfinished
  | [] => by
    rw [rejectedIn, stylesOf, listsBelow]
    rfl
  | n :: r => by
    have hn := n.length_rejected
    have hr := length_rejectedIn r
    rw [rejectedIn, stylesOf, listsBelow, List.length_append, List.countP_append, List.map_append, List.sum_append,
      List.countP_cons]
    omega

end

theorem sum_countP_isUnfinished {css : List Char} {lists : List (List Node)} (h : ∀ l ∈ lists, RuleList css l) :
    (lists.map (List.countP Node.isUnfinished)).sum = lists.countP endsUnfinished := by
  induction lists with
  | nil => rfl
  | cons l r ih =>
    obtain ⟨hl, hr⟩ := List.forall_mem_cons.1 h
    rw [List.map_cons, List.sum_cons, ih hr, hl.countP_isUnfinished, List.countP_cons, Nat.add_comm]

/-- As many pieces are rejected as there are style rules that read as declarations and rule lists that end
before a block. -/
theorem length_rejectionsOf_scan (css : String) : (rejectionsOf (scan css)).length =
    (stylesOf (ruleTree css)).countP StyleNode.isDeclaration + (ruleLists css).countP endsUnfinished := by
  have hlength := congrArg List.length (rejections_scan css)
  have hlists := sum_countP_isUnfinished (fun l (hl : l ∈ ruleLists css) => ruleList_of_mem hl)
  rw [ruleLists, List.map_cons, List.sum_cons, ← ruleLists] at hlists
  rw [List.length_map, List.length_map, length_rejectedIn] at hlength
  rw [hlength, ← hlists]
  omega

end ClassAtlas.Stylesheet
