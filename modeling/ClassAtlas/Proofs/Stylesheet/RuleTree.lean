/-
The tree of rules of a stylesheet, and the style rules that a walk through it comes to. The tree is
made of components: an at-rule ends at its first semicolon or block, a style rule at its first block,
and both at the end of their list. The walk goes into the blocks of grouping at-rules and into no
others.

The tree is there to be compared with what a scan finds; nothing here counts brackets.
-/
import ClassAtlas.Proofs.Stylesheet.Component
import ClassAtlas.Stylesheet.Rules

namespace ClassAtlas.Stylesheet

/-! ## Trees -/

/-- A style rule of a tree: all the text before it, its prelude, and its block. -/
structure StyleNode where
  before : List Char
  prelude : List Component
  opener : Token
  inside : List Component
  closer : Option Token

/-- A node of a tree: an at-rule without a block, an at-rule with the rules of its block, a style
rule, or what is left of a list that ends before a block. -/
inductive Node
  | statement (keyword : Token) (prelude : List Component)
  | block (keyword : Token) (prelude : List Component) (rules : List Node)
  | style (s : StyleNode)
  | unfinished (prelude : List Component)

/-- The text of some components. -/
def textIn (F : List Component) : List Char :=
  textOf (tokensOf F)

/-- Whether an at-rule ends at a component. -/
def Component.endsAtRule (c : Component) : Bool :=
  c.head.kind == .semicolon || c.head.opensBlock

theorem length_tokensOf_le_of_span_eq {p : Component → Bool} {F a b : List Component} (h : F.span p = (a, b)) :
    (tokensOf b).length ≤ (tokensOf F).length := by
  rw [← append_of_span_eq h, tokensOf_append, List.length_append]
  omega

theorem length_tokensOf_lt_cons (c : Component) (r : List Component) :
    (tokensOf r).length < (tokensOf (c :: r)).length := by
  obtain ⟨ts, hts⟩ := tokensOf_cons c []
  rw [tokensOf, tokensOf_nil, List.append_nil] at hts
  rw [tokensOf, hts, List.length_append, List.length_cons]
  omega

/-- The rules of a list of components, with all the text before the list. -/
def rulesIn (before : List Char) (F : List Component) : List Node :=
  match _hF : F.span fun c => c.head.isBetween with
  | (_, []) => []
  | (gap, c :: rest) =>
    if c.head.kind = .atKeyword then
      match hr : rest.span fun d => !d.endsAtRule with
      | (prelude, []) => [.statement c.head prelude]
      | (prelude, .leaf u :: more) =>
        .statement c.head prelude ::
          rulesIn (before ++ textIn (gap ++ c :: prelude ++ [.leaf u])) more
      | (prelude, .group o inside closer :: more) =>
        .block c.head prelude (rulesIn (before ++ (textIn (gap ++ c :: prelude) ++ o.text)) inside) ::
          rulesIn (before ++ textIn (gap ++ c :: prelude ++ [.group o inside closer])) more
    else
      match hr : (c :: rest).span fun d => !d.head.opensBlock with
      | (prelude, .group o inside closer :: more) =>
        .style ⟨before ++ textIn gap, prelude, o, inside, closer⟩ ::
          rulesIn (before ++ textIn (gap ++ prelude ++ [.group o inside closer])) more
      | (prelude, _) => [.unfinished prelude]
termination_by (tokensOf F).length
decreasing_by
  all_goals
    have h1 := length_tokensOf_le_of_span_eq _hF
    have h2 := length_tokensOf_le_of_span_eq hr
    have h3 := length_tokensOf_lt_cons c rest
    simp only [tokensOf_leaf, tokensOf_group, List.length_cons, List.length_append] at h1 h2 h3 ⊢
    omega

/-- The tree of a stylesheet. -/
def ruleTree (css : String) : List Node :=
  rulesIn [] (componentsOf (tokens css.toList))

/-! ## The walk -/

mutual

/-- The style rules that a walk through a node comes to, in the order of the stylesheet. -/
def Node.styles : Node → List StyleNode
  | .block keyword _ rules => if keyword.isGrouping then stylesOf rules else []
  | .style s => [s]
  | .statement _ _ => []
  | .unfinished _ => []

/-- The style rules that a walk through some nodes comes to. -/
def stylesOf : List Node → List StyleNode
  | [] => []
  | n :: r => n.styles ++ stylesOf r

end

namespace StyleNode

/-- The selectors: the parts of the prelude between its commas, each without the spacing that leads
it and with its blanks squeezed. -/
def selectors (s : StyleNode) : List String :=
  (s.prelude.splitOnP fun c => c.head.kind == .comma).map fun part =>
    String.ofList (Text.squeeze (textIn (part.dropWhile fun c => c.head.isSpacing)))

/-- All tokens of a style rule, in order. -/
def tokens (s : StyleNode) : List Token :=
  tokensOf s.prelude ++ s.opener :: (tokensOf s.inside ++ s.closer.toList)

/-- The text of a style rule, from its prelude to the end of its block. -/
def text (s : StyleNode) : List Char :=
  textOf s.tokens

/-- The text of a style rule up to the end of what its block holds. -/
def openText (s : StyleNode) : List Char :=
  textOf (tokensOf s.prelude ++ s.opener :: tokensOf s.inside)

/-- The rule that a style rule is noted as. -/
def rule (s : StyleNode) : StyleRule :=
  ⟨s.selectors, ⟨(Mark.start.advance s.before).location.ofFirst,
    (Mark.start.advance (s.before ++ s.openText)).location.behind⟩⟩

/-- Whether the prelude reads like the declaration of a custom property. -/
def isDeclaration (s : StyleNode) : Bool :=
  readsAsDeclaration (tokensOf s.prelude)

end StyleNode

end ClassAtlas.Stylesheet
