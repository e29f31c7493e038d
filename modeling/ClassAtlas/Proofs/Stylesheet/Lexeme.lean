/-
The first token of a text, by its kind. A token with a role between items, rules or selectors starts with a
character of its own, and its length is known (`starts_lexeme`); what the kinds of all other tokens have in
common is that they have no such role.
-/
import ClassAtlas.Stylesheet.Token

namespace ClassAtlas.Stylesheet.Token

/-- A kind of token without a role between items, rules or selectors. -/
def Kind.isInner : Kind → Bool
  | .gap | .comment | .commentOpen | .commentClose | .comma | .semicolon | .opening .curly | .closing .curly => false
  | _ => true

/-- What starts with a name is the name, a function or a url. -/
theorem named_isInner (s : List Char) : (named s).1.isInner = true := by
  unfold named
  dsimp only
  split
  · split
    · split <;> rfl
    · rfl
  · rfl

/-- The kind and length of what starts with a character. -/
inductive Starts (c : Char) (r : List Char) : Kind × Nat → Prop
  | gap : isGap c = true → Starts c r (.gap, ((c :: r).takeWhile isGap).length)
  | comment {q : List Char} : c :: r = '/' :: '*' :: q → Starts c r (.comment, commentLength q + 2)
  | opens {q : List Char} : c :: r = '<' :: '!' :: '-' :: '-' :: q → Starts c r (.commentOpen, 4)
  | closes {q : List Char} : c :: r = '-' :: '-' :: '>' :: q → Starts c r (.commentClose, 3)
  | blockStart : c = '\x7b' → Starts c r (.opening .curly, 1)
  | blockEnd : c = '\x7d' → Starts c r (.closing .curly, 1)
  | comma : c = ',' → Starts c r (.comma, 1)
  | semicolon : c = ';' → Starts c r (.semicolon, 1)
  | inner {l : Kind × Nat} : l.1.isInner = true → Starts c r l

theorem starts_lexeme (c : Char) (r : List Char) : Starts c r (lexeme (c :: r)) := by
  unfold lexeme
  dsimp only
  -- one step for each test of a lexeme, in their order
  refine iteInduction (fun hc => .gap hc) fun _ => ?_
  iterate 2 refine iteInduction (fun _ => .inner rfl) fun _ => ?_
  refine iteInduction (fun hc => ?_) fun _ => ?_
  · obtain ⟨q, rfl⟩ := List.head?_eq_some_iff.1 hc.2
    exact .comment (q := q) (by rw [hc.1])
  refine iteInduction (fun hp => ?_) fun _ => ?_
  · obtain ⟨q, hq⟩ := List.isPrefixOf_iff_prefix.1 hp
    exact .opens hq.symm
  refine iteInduction (fun hp => ?_) fun _ => ?_
  · obtain ⟨q, hq⟩ := List.isPrefixOf_iff_prefix.1 hp
    exact .closes hq.symm
  refine iteInduction (fun _ => .inner (named_isInner _)) fun _ => ?_
  iterate 6 refine iteInduction (fun _ => .inner rfl) fun _ => ?_
  refine iteInduction .blockStart fun _ => ?_
  refine iteInduction .blockEnd fun _ => ?_
  refine iteInduction .comma fun _ => ?_
  refine iteInduction .semicolon fun _ => ?_
  exact iteInduction (fun _ => .inner rfl) fun _ => .inner rfl

end ClassAtlas.Stylesheet.Token
