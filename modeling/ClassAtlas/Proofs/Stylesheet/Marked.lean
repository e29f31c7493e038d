/-
Stylesheets with a byte-order mark in front. The mark is a character of names, so the text starts with a name that it
begins (`exists_marked`), and unless the text behind it starts in an odd way, nothing else changes about its tokens
(`tokens_mark`). But with that name an item starts, which goes on to the end of the first block, whatever would have
ended before (`foundMarked`): it is a style rule, and the first of its selectors begins with the mark.
-/
import ClassAtlas.Proofs.Stylesheet.Edge
import ClassAtlas.Proofs.Stylesheet.FirstBlock

namespace ClassAtlas

/-- The mark that may stand in front of a text in UTF-8. -/
def byteOrderMark : Char := '\ufeff'

namespace Stylesheet

open Token

/-! ## The token of the mark -/

/-- A name, or a function. -/
def Token.Kind.isNamed : Kind → Bool
  | .ident | .function => true
  | _ => false

/-- A name or function that begins with the mark. -/
structure Token.IsMarked (t : Token) : Prop where
  named : t.kind.isNamed = true
  begins : t.text.head? = some byteOrderMark

theorem lexeme_mark (cs : List Char) : lexeme (byteOrderMark :: cs) = named (byteOrderMark :: cs) := rfl

theorem nameLength_mark (cs : List Char) : nameLength 0 (byteOrderMark :: cs) = nameLength 0 cs + 1 := rfl

/-- No keyword begins with the mark. -/
theorem namesKeyword_mark (cs : List Char) : namesKeyword (byteOrderMark :: cs) "url" = false := rfl

/-- With the mark a name is longer by it, and a bracket behind it makes it a function in any case. -/
theorem named_mark (cs : List Char) : named (byteOrderMark :: cs) =
    if (cs.drop (nameLength 0 cs)).head? = some '(' then (.function, nameLength 0 cs + 2)
    else (.ident, nameLength 0 cs + 1) := by
  have hdrop : (byteOrderMark :: cs).drop (nameLength 0 cs + 1) = cs.drop (nameLength 0 cs) := rfl
  split
  · next h =>
    obtain ⟨r, hr⟩ := List.head?_eq_some_iff.1 h
    rw [named_bracket (nameLength_mark cs) (hdrop.trans hr), List.take_succ_cons, namesKeyword_mark]
    rfl
  · next h => exact named_ident (nameLength_mark cs) (by rwa [hdrop])

theorem exists_marked (cs : List Char) : ∃ t ts, tokens (byteOrderMark :: cs) = t :: ts ∧ t.IsMarked := by
  refine ⟨_, _, tokens_cons _ _, ?_, rfl⟩
  rw [lexeme_mark, named_mark]
  split <;> rfl

section Named

variable {t : Token} (h : t.kind.isNamed = true)
include h

/-- A name or function is of no other kind. -/
theorem kind_beq_of_isNamed {k : Kind} (hk : k.isNamed = false) : (t.kind == k) = false := by
  rw [beq_eq_false_iff_ne]
  rintro rfl
  rw [hk] at h
  cases h

theorem isSpacing_of_isNamed : t.isSpacing = false := by
  rw [Token.isSpacing, kind_beq_of_isNamed h (k := .gap) rfl, kind_beq_of_isNamed h (k := .comment) rfl]
  rfl

theorem isBetween_of_isNamed : t.isBetween = false := by
  rw [Token.isBetween, isSpacing_of_isNamed h, kind_beq_of_isNamed h (k := .commentOpen) rfl,
    kind_beq_of_isNamed h (k := .commentClose) rfl]
  rfl

end Named

/-! ## The other tokens -/

/-- What starts with a character is a name or function only if a name starts there. -/
def ReadsName (c : Char) (r : List Char) (l : Kind × Nat) : Prop :=
  l.1.isNamed = true → startsName (c :: r) = true ∧ l = named (c :: r)

theorem readsName_lexeme (c : Char) (r : List Char) : ReadsName c r (lexeme (c :: r)) := by
  have hother : ∀ {k : Kind} {n : Nat}, k.isNamed = false → ReadsName c r (k, n) := by
    intro k n hk hnamed
    rw [hk] at hnamed
    cases hnamed
  unfold lexeme
  dsimp only
  -- one step for each test of a lexeme, in their order
  iterate 6 refine iteInduction (fun _ => hother rfl) fun _ => ?_
  refine iteInduction (fun hname _ => ⟨hname, rfl⟩) fun _ => ?_
  iterate 11 refine iteInduction (fun _ => hother rfl) fun _ => ?_
  exact hother rfl

/-- A name that starts a text takes the mark up as it is, unless it belongs to a url. -/
theorem named_mark_eq {cs : List Char} (h : (named cs).1.isNamed = true) :
    named (byteOrderMark :: cs) = ((named cs).1, (named cs).2 + 1) := by
  rw [named_mark]
  split
  · next hbracket =>
    obtain ⟨r, hr⟩ := List.head?_eq_some_iff.1 hbracket
    have hnamed := named_bracket rfl hr
    rw [hnamed] at h ⊢
    split at h
    · next hkey =>
      rw [if_pos hkey]
      cases hurl : urlLength? r with
      | some k => rw [hurl] at h; cases h
      | none => rfl
    · next hkey => rw [if_neg hkey]
  · next hbracket => rw [named_ident rfl hbracket]

/-- A text starts plainly: with no character of a name and no bracket, or with a token that is a name or a function. -/
def StartsPlainly (cs : List Char) : Prop :=
  (nameLength 0 cs = 0 ∧ cs.head? ≠ some '(') ∨ ∃ t ts, tokens cs = t :: ts ∧ t.kind.isNamed = true

/-- Tokens with the mark in front of them: a name or function takes it up, in front of others it is a name itself. -/
def withMark : List Token → List Token
  | [] => [⟨.ident, [byteOrderMark]⟩]
  | t :: ts =>
    if t.kind.isNamed then ⟨t.kind, byteOrderMark :: t.text⟩ :: ts else ⟨.ident, [byteOrderMark]⟩ :: t :: ts

theorem textOf_withMark (ts : List Token) : textOf (withMark ts) = byteOrderMark :: textOf ts := by
  cases ts with
  | nil => rfl
  | cons t ts =>
    rw [withMark]
    split <;> rfl

theorem tokens_mark {cs : List Char} (h : StartsPlainly cs) :
    tokens (byteOrderMark :: cs) = withMark (tokens cs) := by
  rcases h with ⟨hname, hbracket⟩ | ⟨t, ts, htokens, hnamed⟩
  · have hmark : tokens (byteOrderMark :: cs) = ⟨.ident, [byteOrderMark]⟩ :: tokens cs := by
      rw [tokens_cons, lexeme_mark, named_mark, hname, List.drop_zero, if_neg hbracket]
      rfl
    rw [hmark]
    cases cs with
    | nil => rw [tokens]; rfl
    | cons c r =>
      have hother : ¬ (lexeme (c :: r)).1.isNamed = true := fun h =>
        Nat.ne_of_gt (nameLength_pos (readsName_lexeme c r h).1) hname
      rw [tokens_cons c r, withMark, if_neg hother]
  · cases cs with
    | nil => rw [tokens] at htokens; cases htokens
    | cons c r =>
      rw [tokens_cons, List.cons.injEq] at htokens
      obtain ⟨rfl, rfl⟩ := htokens
      obtain ⟨hstart, hlexeme⟩ := readsName_lexeme c r hnamed
      rw [hlexeme] at hnamed
      obtain ⟨n, hn⟩ := Nat.exists_eq_succ_of_ne_zero (n := (named (c :: r)).2)
        (Nat.ne_of_gt (Nat.lt_of_lt_of_le (nameLength_pos hstart) (nameLength_le_named _)))
      rw [tokens_cons, lexeme_mark, named_mark_eq hnamed, tokens_cons, hlexeme, withMark, if_pos hnamed, hn]
      rfl

/-! ## Cutting -/

/-- No name or function stops a reading. -/
def PassesNames (stop : Token → Bool) : Prop :=
  ∀ t : Token, t.kind.isNamed = true → stop t = false

theorem passesNames_opensBlock : PassesNames Token.opensBlock :=
  fun _ ht => kind_beq_of_isNamed ht rfl

theorem passesNames_comma : PassesNames fun t => t.kind == .comma :=
  fun _ ht => kind_beq_of_isNamed ht rfl

section Cut

variable {stop : Token → Bool} (hstop : PassesNames stop)
include hstop

theorem cut_named {t : Token} (ht : t.kind.isNamed = true) (ts : List Token) :
    cut stop [] (t :: ts) = (t :: (cut stop (t.nest []) ts).1, (cut stop (t.nest []) ts).2) :=
  cut_cons_of_neg (by rw [hstop t ht]; exact Bool.false_ne_true) ts

/-- With the mark in front a list is cut where it was. -/
theorem cut_withMark (ts : List Token) :
    cut stop [] (withMark ts) = (withMark (cut stop [] ts).1, (cut stop [] ts).2) := by
  cases ts with
  | nil => exact cut_named hstop rfl []
  | cons t ts =>
    cases ht : t.kind.isNamed with
    | true =>
      have hnest : Token.nest [] ⟨t.kind, byteOrderMark :: t.text⟩ = t.nest [] := rfl
      rw [withMark, if_pos ht, cut_named hstop ht, cut_named hstop (by exact ht), hnest, withMark, if_pos ht]
    | false =>
      have ht' : ¬ t.kind.isNamed = true := by rw [ht]; exact Bool.false_ne_true
      have hfront : withMark (cut stop [] (t :: ts)).1 = ⟨.ident, [byteOrderMark]⟩ :: (cut stop [] (t :: ts)).1 := by
        rw [cut]
        split
        · rfl
        · rw [withMark, if_neg ht']
      rw [withMark, if_neg ht', cut_named hstop rfl, hfront]
      rfl

end Cut

theorem firstBlock?_withMark (ts : List Token) :
    firstBlock? (withMark ts) = (firstBlock? ts).map fun (lead, found) => (withMark lead, found) := by
  unfold firstBlock?
  rw [cut_withMark passesNames_opensBlock]
  cases cut Token.opensBlock [] ts with
  | mk lead left => cases left <;> rfl

/-! ## Selectors -/

/-- The selectors of a prelude but the first. -/
def laterSelectors (prelude : List Token) : List String :=
  (selectorsOf prelude).tail

theorem laterSelectors_withMark (ts : List Token) : laterSelectors (withMark ts) = laterSelectors ts := by
  unfold laterSelectors selectorsOf
  rw [commaParts_eq_cut, commaParts_eq_cut, cut_withMark passesNames_comma]
  rfl

/-- The first selector of a prelude that starts with the mark starts with it, too, so it is no class. -/
theorem selectorsOf_marked {t : Token} (ht : t.IsMarked) (ts : List Token) :
    ∃ selector, selectorsOf (t :: ts) = selector :: laterSelectors (t :: ts) ∧
      selector.toList.head? = some byteOrderMark := by
  obtain ⟨r, hr⟩ := List.head?_eq_some_iff.1 ht.begins
  have hspacing : ¬ t.isSpacing = true := by
    rw [isSpacing_of_isNamed ht.named]
    exact Bool.false_ne_true
  unfold laterSelectors selectorsOf
  rw [commaParts_eq_cut, cut_named passesNames_comma ht.named]
  refine ⟨_, rfl, ?_⟩
  rw [selectorOf, List.dropWhile_cons_of_neg hspacing, textOf, List.flatMap_cons, hr, List.cons_append,
    String.toList_ofList]
  exact Text.head?_squeeze (by decide) _

/-- No name that begins with the mark has two hyphens in front. -/
theorem readsAsDeclaration_marked {t : Token} (ht : t.IsMarked) (ts : List Token) :
    readsAsDeclaration (t :: ts) = false := by
  obtain ⟨r, hr⟩ := List.head?_eq_some_iff.1 ht.begins
  have hhyphens : ['-', '-'].isPrefixOf (unescape 0 t.text) = false := by
    rw [hr]
    rfl
  unfold readsAsDeclaration
  rw [List.filter_cons_of_pos (by rw [isSpacing_of_isNamed ht.named]; rfl)]
  cases ts.filter fun t => !t.isSpacing with
  | nil => rfl
  | cons u us =>
    dsimp only
    rw [hhyphens, Bool.and_false, Bool.false_and]

/-! ## Scanning -/

/-- What a scan finds behind the mark, by the first block: a style rule up to the end of the block, whatever ends
before, and then what is behind it. Without a block all is rejected. -/
inductive FoundMarked (m : Mark) : List Finding → Option (List Token × Block × List Token) → Prop
  | none (r : Rejection) : FoundMarked m [.rejection r] none
  | some {t : Token} (ht : t.IsMarked) (lead rest : List Token) (b : Block) :
      FoundMarked m (.rule (.ofItem m (t :: lead) b) :: scanList (m.advance (textOf (t :: lead ++ b.tokens))) rest)
        (some (t :: lead, b, rest))

theorem foundMarked {t : Token} (ht : t.IsMarked) (m : Mark) (ts : List Token) :
    FoundMarked m (scanList m (t :: ts)) (firstBlock? (t :: ts)) := by
  have hkind : t.kind ≠ .atKeyword := beq_eq_false_iff_ne.1 (kind_beq_of_isNamed ht.named rfl)
  cases hread : Item.read t ts with
  | mk item rest =>
    have hscan := scanList_some m (next?_item (isBetween_of_isNamed ht.named) hread)
    rw [firstBlock?_read hread]
    have hreads := hread ▸ reads_read t ts
    cases hreads with
    | listEnd hk _ => exact absurd hk hkind
    | statement hk _ _ => exact absurd hk hkind
    | atRule hk _ _ => exact absurd hk hkind
    | style _ hcut =>
      rw [cut_named passesNames_opensBlock ht.named, Prod.mk.injEq] at hcut
      obtain ⟨rfl, -⟩ := hcut
      rw [hscan, Item.findings]
      unfold Finding.ofPrelude
      rw [readsAsDeclaration_marked ht]
      exact .some ht _ _ _
    | unfinished _ _ =>
      obtain ⟨r, hr⟩ := exists_ofPrelude_none (m.advance (textOf [])) _
      rw [hscan, Item.findings, hr, scanList_nil]
      exact .none r

end Stylesheet

end ClassAtlas
