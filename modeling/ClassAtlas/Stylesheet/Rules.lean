/-
The style rules of a stylesheet. A scan reads a rule list item by item; it looks into the blocks
of grouping at-rules, whose content is a rule list again, and into no others. A style rule is noted
with its selectors and its span. Rejected are a last piece without a block, and what reads like the
declaration of a custom property, even if it has a block: `--x:hover` is no selector.

A rule's span runs from the first character of its prelude to the place behind the character at
the end of its block's content, which is the closing bracket where there is one.
-/
import ClassAtlas.Stylesheet.Item
import ClassAtlas.Stylesheet.Mark
import ClassAtlas.Text.Blank

namespace ClassAtlas.Stylesheet

/-- A style rule: its selectors, and where it stands. -/
structure StyleRule where
  selectors : List String
  span : Span
  deriving DecidableEq, Repr

/-- A piece of a stylesheet that is no rule: the location told for it, and its text. -/
structure Rejection where
  place : Location
  text : String
  deriving DecidableEq, Repr

/-- What a scan comes upon. -/
inductive Finding
  | rule (r : StyleRule)
  | rejection (r : Rejection)
  deriving DecidableEq, Repr

/-- The at-rules whose blocks hold rules. -/
def groupingNames : List String :=
  ["media", "supports", "layer", "container", "document", "-moz-document", "scope",
    "starting-style"]

/-- Whether the block of the at-rule with this keyword holds rules. -/
def Token.isGrouping (keyword : Token) : Bool :=
  groupingNames.any (namesKeyword (keyword.text.drop 1))

/-! ## Selectors -/

/-- The text of a list of tokens. -/
def textOf (ts : List Token) : List Char :=
  ts.flatMap Token.text

/-- The parts of a prelude between its commas outside all brackets; a prelude without such commas
is one part. -/
def commaParts (pending : List Bracket) : List Token → List (List Token)
  | [] => [[]]
  | t :: r =>
    if pending.isEmpty && t.kind == .comma then
      [] :: commaParts pending r
    else
      match commaParts (t.nest pending) r with
      | [] => [[t]]
      | p :: ps => (t :: p) :: ps

/-- The text of one part of a prelude as it is kept: without the spacing that leads it, and with
its blanks squeezed. -/
def selectorOf (part : List Token) : String :=
  String.ofList (Text.squeeze (textOf (part.dropWhile Token.isSpacing)))

/-- The selectors of a prelude. -/
def selectorsOf (prelude : List Token) : List String :=
  (commaParts [] prelude).map selectorOf

/-! ## Custom properties -/

/-- Whether a prelude reads like the declaration of a custom property: spacing aside, it starts
with a name that has two hyphens in front, and a colon. -/
def readsAsDeclaration (prelude : List Token) : Bool :=
  match prelude.filter fun t => !t.isSpacing with
  | name :: colon :: _ =>
    name.kind == .ident && ['-', '-'].isPrefixOf (unescape 0 name.text) && colon.text == [':']
  | _ => false

/-! ## Scanning -/

/-- The style rule with a prelude and a block that start at a mark. -/
def StyleRule.ofItem (m : Mark) (prelude : List Token) (block : Block) : StyleRule :=
  let inner := m.advance (textOf (prelude ++ block.opener :: block.body))
  ⟨selectorsOf prelude, ⟨m.location.ofFirst, inner.location.behind⟩⟩

/-- The rejection of a piece, told for some location. -/
def Rejection.ofTokens (place : Location) (ts : List Token) : Rejection :=
  ⟨place, String.ofList (Text.trim (textOf ts))⟩

/-- The finding for a prelude that starts at a mark and for its block, if it has one. What reads as
a declaration is told where it starts; a prelude without a block, where it ends. -/
def Finding.ofPrelude (m : Mark) (prelude : List Token) (block : Option Block) : Finding :=
  match readsAsDeclaration prelude, block with
  | true, some b => .rejection (.ofTokens m.location (prelude ++ b.tokens))
  | true, none => .rejection (.ofTokens m.location prelude)
  | false, some b => .rule (.ofItem m prelude b)
  | false, none => .rejection (.ofTokens (m.advance (textOf prelude)).location prelude)

/-- The findings in a rule list that starts at a mark, in the order of the stylesheet. -/
def scanList (m : Mark) (ts : List Token) : List Finding :=
  match h : Item.next? ts with
  | none => []
  | some (gap, item, rest) =>
    have := Item.next?_length_lt h
    let here := m.advance (textOf gap)
    let found : List Finding :=
      match item with
      | .atRule keyword prelude (.block block) =>
        if keyword.isGrouping then
          scanList (here.advance (textOf (keyword :: prelude ++ [block.opener]))) block.body
        else
          []
      | .atRule _ _ _ => []
      | .style prelude block => [.ofPrelude here prelude (some block)]
      | .unfinished prelude => [.ofPrelude here prelude none]
    found ++ scanList (here.advance (textOf item.tokens)) rest
termination_by ts.length
decreasing_by
  · simp only [Item.tokens, Ending.tokens, Block.tokens, List.length_append,
      List.length_cons] at this
    omega
  · omega

/-- The findings in a stylesheet. -/
def scan (css : String) : List Finding :=
  scanList .start (tokens css.toList)

/-- The style rules among findings. -/
def rulesOf (found : List Finding) : List StyleRule :=
  found.filterMap fun
    | .rule r => some r
    | .rejection _ => none

/-- The rejections among findings. -/
def rejectionsOf (found : List Finding) : List Rejection :=
  found.filterMap fun
    | .rule _ => none
    | .rejection r => some r

end ClassAtlas.Stylesheet
