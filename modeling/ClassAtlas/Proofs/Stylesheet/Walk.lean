/-
A scan finds what a walk finds. Whatever is told of the findings of a scan item by item can be told of
the nodes of the tree instead (`Tells.filterMap_scanList`): the rules that a scan of the tokens of a forest
notes are the style rules that a walk through its tree comes to, but for those that read as declarations
(`rulesOf_scanList`, and `rulesOf_scan` for whole stylesheets).
-/
import ClassAtlas.Proofs.Stylesheet.Items

namespace ClassAtlas.Stylesheet

/-! ## Scanning a forest -/

/-- What a scan finds in one item that starts at a mark. -/
def Item.findings (here : Mark) : Item → List Finding
  | .atRule keyword prelude (.block block) =>
    if keyword.isGrouping then
      scanList (here.advance (textOf (keyword :: prelude ++ [block.opener]))) block.body
    else
      []
  | .atRule _ _ _ => []
  | .style prelude block => [.ofPrelude here prelude (some block)]
  | .unfinished prelude => [.ofPrelude here prelude none]

theorem scanList_none (m : Mark) {ts : List Token} (h : Item.next? ts = none) : scanList m ts = [] := by
  rw [scanList]
  split
  · rfl
  · next h' => rw [h] at h'; cases h'

/-- A scan takes one item after the other. -/
theorem scanList_some (m : Mark) {ts gap rest : List Token} {item : Item}
    (h : Item.next? ts = some (gap, item, rest)) :
    scanList m ts = item.findings (m.advance (textOf gap)) ++
      scanList ((m.advance (textOf gap)).advance (textOf item.tokens)) rest := by
  rw [scanList]
  split
  · next h' => rw [h] at h'; cases h'
  · next h' =>
    rw [h] at h'
    cases h'
    cases item with
    | atRule keyword prelude ending => cases ending <;> rfl
    | style prelude block => rfl
    | unfinished prelude => rfl

/-- Something is told of the nodes of a tree as it is told of what a scan finds in their items. -/
structure Tells {α : Type} (select : Finding → Option α) (ofNode : Node → List α) (ofNodes : List Node → List α) :
    Prop where
  nil : ofNodes [] = []
  cons (n : Node) (r : List Node) : ofNodes (n :: r) = ofNode n ++ ofNodes r
  statement (keyword : Token) (prelude : List Component) : ofNode (.statement keyword prelude) = []
  block (keyword : Token) (prelude : List Component) (rules : List Node) :
    ofNode (.block keyword prelude rules) = if keyword.isGrouping then ofNodes rules else []
  style {within : Option Bracket} {ended : Bool} {s : StyleNode} : Forest within ended s.prelude →
    [Finding.ofPrelude (Mark.start.advance s.before) (tokensOf s.prelude)
      (some ⟨s.opener, tokensOf s.inside, s.closer⟩)].filterMap select = ofNode (.style s)
  unfinished (m : Mark) (prelude : List Component) :
    [Finding.ofPrelude m (tokensOf prelude) none].filterMap select = ofNode (.unfinished prelude)

/-- What is told of the nodes that a forest is read as is told of what a scan of its tokens finds. -/
theorem Tells.filterMap_scanList {α : Type} {select : Finding → Option α} {ofNode : Node → List α}
    {ofNodes : List Node → List α} (ht : Tells select ofNode ofNodes) {within : Option Bracket} {ended : Bool}
    {F : List Component} (h : Forest within ended F) (before : List Char) :
    (scanList (Mark.start.advance before) (tokensOf F)).filterMap select = ofNodes (rulesIn before F) := by
  -- one case for each end that the first item of the forest can have
  fun_induction rulesIn before F generalizing within ended with
  | case1 before F gap hF => rw [scanList_none _ (next?_nil h hF), List.filterMap_nil, ht.nil]
  | case2 before F gap c rest hF hk prelude hr =>
    obtain ⟨e, hc⟩ := (h.of_span_eq hF).2
    obtain ⟨e', hrest⟩ := hc.tail
    have hn := next?_cons h hF (hc.tokensOf_cons_leaf (opens?_of_atKeyword hk) rest)
    rw [read_statement_end hrest hk hr] at hn
    rw [scanList_some _ hn, scanList_none _ (by rfl), ht.cons, ht.statement, ht.nil]
    rfl
  | case3 before F gap c rest hF hk prelude u more hr ih =>
    obtain ⟨e, hc⟩ := (h.of_span_eq hF).2
    obtain ⟨e', hrest⟩ := hc.tail
    obtain ⟨e'', hu⟩ := (hrest.of_span_eq hr).2
    obtain ⟨_, hmore⟩ := hu.tail
    have hleaf := hc.tokensOf_cons_leaf (opens?_of_atKeyword hk)
    have hn := next?_cons h hF (hleaf rest)
    rw [read_statement hrest hk hr] at hn
    rw [scanList_some _ hn, List.filterMap_append, ht.cons, ht.statement, ← ih hmore]
    simp [Item.findings, Item.tokens, Ending.tokens, textIn, textOf, hleaf]
  | case4 before F gap c rest hF hk prelude o inside closer more hr ihi ih =>
    obtain ⟨e, hc⟩ := (h.of_span_eq hF).2
    obtain ⟨e', hrest⟩ := hc.tail
    obtain ⟨e'', hgroup⟩ := (hrest.of_span_eq hr).2
    obtain ⟨_, hmore⟩ := hgroup.tail
    obtain ⟨_, _, -, hinside⟩ := hgroup.of_group
    have hleaf := hc.tokensOf_cons_leaf (opens?_of_atKeyword hk)
    have hn := next?_cons h hF (hleaf rest)
    rw [read_block hrest hk hr] at hn
    have hbody : ((Mark.start.advance before).advance (textOf (tokensOf gap))).advance
        (textOf (c.head :: tokensOf prelude ++ [o])) =
          Mark.start.advance (before ++ (textIn (gap ++ c :: prelude) ++ o.text)) := by
      simp [textIn, textOf, hleaf]
    rw [scanList_some _ hn, List.filterMap_append, ht.cons, ht.block, ← ih hmore]
    -- the block counts only if it holds rules, but what follows it is scanned in any case
    congr 1
    · rw [Item.findings, hbody]
      cases c.head.isGrouping with
      | true => exact ihi hinside
      | false => rfl
    · simp [Item.tokens, Ending.tokens, Block.tokens, textIn, textOf, hleaf]
  | case5 before F gap c rest hF hk prelude o inside closer more hr ih =>
    obtain ⟨e, hc⟩ := (h.of_span_eq hF).2
    obtain ⟨⟨_, hprelude⟩, e', hgroup⟩ := hc.of_span_eq hr
    obtain ⟨_, hmore⟩ := hgroup.tail
    obtain ⟨ts, hts⟩ := tokensOf_cons c rest
    have hn := next?_cons h hF hts
    rw [read_style hc hts hk hr] at hn
    have hs := ht.style (s := ⟨before ++ textIn gap, prelude, o, inside, closer⟩) hprelude
    rw [scanList_some _ hn, List.filterMap_append, ht.cons, ← ih hmore, ← hs]
    simp [Item.findings, Item.tokens, Block.tokens, textIn, textOf]
  | case6 before F gap c rest hF hk prelude more hg hr =>
    obtain ⟨e, hc⟩ := (h.of_span_eq hF).2
    obtain ⟨ts, hts⟩ := tokensOf_cons c rest
    have hn := next?_cons h hF hts
    rw [read_unfinished hc hts hk hr hg] at hn
    rw [scanList_some _ hn, scanList_none _ (by rfl), List.append_nil, ht.cons, ht.nil, List.append_nil]
    exact ht.unfinished _ prelude

/-! ## Rules -/

@[simp] theorem rulesOf_nil : rulesOf [] = [] := rfl

theorem rulesOf_append (a b : List Finding) : rulesOf (a ++ b) = rulesOf a ++ rulesOf b :=
  List.filterMap_append

/-- The style rules of some nodes that are noted, and as what. -/
def notedRules (nodes : List Node) : List StyleRule :=
  ((stylesOf nodes).filter fun s => !s.isDeclaration).map StyleNode.rule

@[simp] theorem notedRules_nil : notedRules [] = [] := by
  rw [notedRules, stylesOf]; rfl

theorem notedRules_cons (n : Node) (r : List Node) :
    notedRules (n :: r) = (n.styles.filter fun s => !s.isDeclaration).map StyleNode.rule ++ notedRules r := by
  rw [notedRules, stylesOf, List.filter_append, List.map_append]
  rfl

/-- A style rule is noted as the rule of its node, unless it reads as a declaration. -/
theorem rulesOf_ofPrelude {within : Option Bracket} {ended : Bool} {s : StyleNode}
    (h : Forest within ended s.prelude) :
    rulesOf [.ofPrelude (Mark.start.advance s.before) (tokensOf s.prelude)
        (some ⟨s.opener, tokensOf s.inside, s.closer⟩)] =
      ([s].filter fun s => !s.isDeclaration).map StyleNode.rule := by
  have hrule : StyleRule.ofItem (Mark.start.advance s.before) (tokensOf s.prelude)
      ⟨s.opener, tokensOf s.inside, s.closer⟩ = s.rule := by
    unfold StyleRule.ofItem StyleNode.rule StyleNode.openText
    rw [selectorsOf_tokensOf h, Mark.advance_append]
  unfold Finding.ofPrelude
  cases hd : readsAsDeclaration (tokensOf s.prelude) with
  | true => simp [rulesOf, StyleNode.isDeclaration, hd]
  | false => simp [rulesOf, StyleNode.isDeclaration, hd, hrule]

theorem rulesOf_unfinished (m : Mark) (prelude : List Token) : rulesOf [.ofPrelude m prelude none] = [] := by
  unfold Finding.ofPrelude
  cases readsAsDeclaration prelude <;> rfl

theorem tells_rules : Tells (fun | .rule r => some r | .rejection _ => none)
    (fun n => (n.styles.filter fun s => !s.isDeclaration).map StyleNode.rule) notedRules where
  nil := notedRules_nil
  cons := notedRules_cons
  statement _ _ := by
    rw [Node.styles]
    rfl
  block keyword _ rules := by
    rw [Node.styles]
    split <;> rfl
  style hs := by
    rw [Node.styles]
    exact rulesOf_ofPrelude hs
  unfinished m prelude := by
    rw [Node.styles]
    exact rulesOf_unfinished m (tokensOf prelude)

/-- A scan of the tokens of a forest notes the style rules that a walk through its tree comes to, but
for those that read as declarations. -/
theorem rulesOf_scanList {within : Option Bracket} {ended : Bool} {F : List Component}
    (h : Forest within ended F) (before : List Char) :
    rulesOf (scanList (Mark.start.advance before) (tokensOf F)) = notedRules (rulesIn before F) :=
  tells_rules.filterMap_scanList h before

/-- The rules of a stylesheet that a scan notes are those of its tree, which is read first and then
walked through; only what reads as a declaration is left out. -/
theorem rulesOf_scan (css : String) :
    rulesOf (scan css) = ((stylesOf (ruleTree css)).filter fun s => !s.isDeclaration).map StyleNode.rule := by
  obtain ⟨ended, h⟩ := forest_componentsOf (tokens css.toList)
  have hscan := rulesOf_scanList h []
  rwa [tokensOf_componentsOf] at hscan

/-- A rule with a selector and a block that reads as a declaration is in the tree and is not noted. -/
theorem rulesOf_scan_declaration :
    rulesOf (scan "--a:b,.c\x7b\x7d") ≠ (stylesOf (ruleTree "--a:b,.c\x7b\x7d")).map StyleNode.rule := by
  decide +kernel

end ClassAtlas.Stylesheet
