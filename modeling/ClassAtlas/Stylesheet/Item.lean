/-
Rule lists as sequences of items. An item is an at-rule, a style rule, or a last piece that never
reaches a block. An at-rule ends at its first semicolon or block outside all brackets, a style
rule at its first block; both stop at the end of the list. Brackets nest, a closing bracket that
does not match the innermost open one means nothing, and the end of the list closes all of them.

The tokens of an item, with the gap before it and the rest of the list after it, are the list
again (`next?_tokens`), so nothing of a list is passed over.
-/
import ClassAtlas.Stylesheet.Token

namespace ClassAtlas.Stylesheet

/-! ## Brackets -/

/-- The brackets open after a token, innermost first. -/
def Token.nest (pending : List Bracket) (t : Token) : List Bracket :=
  match t.kind with
  | .opening b => b :: pending
  | .function => .round :: pending
  | .closing b => if pending.head? = some b then pending.tail else pending
  | _ => pending

/-- Cuts a list of tokens before the first one that is outside all brackets and at which the
reading stops; the second part is empty if there is none. -/
def cut (stop : Token → Bool) (pending : List Bracket) : List Token → List Token × List Token
  | [] => ([], [])
  | t :: r =>
    if pending.isEmpty && stop t then
      ([], t :: r)
    else
      let (taken, left) := cut stop (t.nest pending) r
      (t :: taken, left)

theorem cut_append (stop : Token → Bool) (pending : List Bracket) (ts : List Token) :
    (cut stop pending ts).1 ++ (cut stop pending ts).2 = ts := by
  induction ts generalizing pending with
  | nil => rfl
  | cons t r ih => unfold cut; split <;> simp [ih]

/-! ## Items -/

/-- A block: the token that opens it, what it holds, and the token that closes it, unless the list
ends first. -/
structure Block where
  opener : Token
  body : List Token
  closer : Option Token
  deriving DecidableEq, Repr

/-- How an at-rule ends. -/
inductive Ending
  | semicolon (t : Token)
  | block (b : Block)
  | listEnd
  deriving DecidableEq, Repr

/-- One item of a rule list. -/
inductive Item
  | atRule (keyword : Token) (prelude : List Token) (ending : Ending)
  | style (prelude : List Token) (block : Block)
  | unfinished (prelude : List Token)
  deriving DecidableEq, Repr

/-- All tokens of a block, in order. -/
def Block.tokens (b : Block) : List Token :=
  b.opener :: b.body ++ b.closer.toList

/-- All tokens of an ending, in order. -/
def Ending.tokens : Ending → List Token
  | .semicolon t => [t]
  | .block b => b.tokens
  | .listEnd => []

/-- All tokens of an item, in order. -/
def Item.tokens : Item → List Token
  | .atRule keyword prelude ending => keyword :: prelude ++ ending.tokens
  | .style prelude block => prelude ++ block.tokens
  | .unfinished prelude => prelude

/-! ## Reading items -/

/-- White space and comments. -/
def Token.isSpacing (t : Token) : Bool :=
  t.kind == .gap || t.kind == .comment

/-- What may stand between items: spacing, and the marks `<!--` and `-->`. -/
def Token.isBetween (t : Token) : Bool :=
  t.isSpacing || t.kind == .commentOpen || t.kind == .commentClose

/-- The token that opens a block. -/
def Token.opensBlock (t : Token) : Bool :=
  t.kind == .opening .curly

/-- The token that closes a block. -/
def Token.closesBlock (t : Token) : Bool :=
  t.kind == .closing .curly

/-- Reads the block behind its opening token; gives the block and what follows it. -/
def Block.read (opener : Token) (ts : List Token) : Block × List Token :=
  let (body, left) := cut Token.closesBlock [] ts
  (⟨opener, body, left.head?⟩, left.tail)

/-- Reads the item that starts with a token; gives the item and what follows it. -/
def Item.read (t : Token) (ts : List Token) : Item × List Token :=
  if t.kind = .atKeyword then
    let (prelude, left) := cut (fun u => u.kind == .semicolon || u.opensBlock) [] ts
    match left with
    | [] => (.atRule t prelude .listEnd, [])
    | u :: rest =>
      if u.opensBlock then
        let (block, rest) := Block.read u rest
        (.atRule t prelude (.block block), rest)
      else
        (.atRule t prelude (.semicolon u), rest)
  else
    let (prelude, left) := cut Token.opensBlock [] (t :: ts)
    match left with
    | [] => (.unfinished prelude, [])
    | u :: rest =>
      let (block, rest) := Block.read u rest
      (.style prelude block, rest)

/-- The first item of a rule list, with the gap before it and the list after it; none if the list
holds nothing but a gap. -/
def Item.next? (ts : List Token) : Option (List Token × Item × List Token) :=
  match ts.dropWhile Token.isBetween with
  | [] => none
  | t :: rest =>
    let (item, rest) := Item.read t rest
    some (ts.takeWhile Token.isBetween, item, rest)

theorem Block.read_tokens (opener : Token) (ts : List Token) :
    (Block.read opener ts).1.tokens ++ (Block.read opener ts).2 = opener :: ts := by
  have h := cut_append Token.closesBlock [] ts
  simp only [Block.read, Block.tokens]
  cases hl : (cut Token.closesBlock [] ts).2 with
  | nil => rw [hl] at h; simpa using h
  | cons u rest => rw [hl] at h; simpa using h

theorem Item.read_tokens (t : Token) (ts : List Token) :
    (Item.read t ts).1.tokens ++ (Item.read t ts).2 = t :: ts := by
  unfold Item.read
  split
  · have h := cut_append (fun u => u.kind == .semicolon || u.opensBlock) [] ts
    generalize cut (fun u => u.kind == .semicolon || u.opensBlock) [] ts = p at h ⊢
    obtain ⟨prelude, _ | ⟨u, rest⟩⟩ := p
    · simpa [Item.tokens, Ending.tokens] using h
    · dsimp only
      split
      · have hb := Block.read_tokens u rest
        simp only [Item.tokens, Ending.tokens, List.cons_append, List.append_assoc]
        rw [hb]; simpa using h
      · simpa [Item.tokens, Ending.tokens] using h
  · have h := cut_append Token.opensBlock [] (t :: ts)
    generalize cut Token.opensBlock [] (t :: ts) = p at h ⊢
    obtain ⟨prelude, _ | ⟨u, rest⟩⟩ := p
    · simpa [Item.tokens] using h
    · have hb := Block.read_tokens u rest
      simp only [Item.tokens, List.append_assoc]
      rw [hb]; simpa using h

/-- The gap, the item and the rest are the list. -/
theorem Item.next?_tokens {ts gap rest : List Token} {item : Item}
    (h : Item.next? ts = some (gap, item, rest)) : gap ++ item.tokens ++ rest = ts := by
  unfold Item.next? at h
  split at h
  · contradiction
  · next t r hd =>
    have hr := Item.read_tokens t r
    simp only [Option.some.injEq, Prod.mk.injEq] at h
    obtain ⟨rfl, rfl, rfl⟩ := h
    rw [List.append_assoc, hr, ← hd, List.takeWhile_append_dropWhile]

/-- An item takes at least one token. -/
theorem Item.read_tokens_ne_nil (t : Token) (ts : List Token) :
    (Item.read t ts).1.tokens ≠ [] := by
  have h := Item.read_tokens t ts
  unfold Item.read at h ⊢
  split
  · generalize cut (fun u => u.kind == .semicolon || u.opensBlock) [] ts = p
    obtain ⟨prelude, _ | ⟨u, rest⟩⟩ := p
    · simp [Item.tokens]
    · dsimp only; split <;> simp [Item.tokens]
  · next hk =>
    rw [if_neg hk] at h
    generalize cut Token.opensBlock [] (t :: ts) = p at h ⊢
    obtain ⟨prelude, _ | ⟨u, rest⟩⟩ := p
    · intro hn; simp [hn] at h
    · simp [Item.tokens, Block.tokens, Block.read]

theorem Item.next?_length_lt {ts gap rest : List Token} {item : Item}
    (h : Item.next? ts = some (gap, item, rest)) :
    0 < item.tokens.length ∧ gap.length + item.tokens.length + rest.length = ts.length := by
  refine ⟨?_, by rw [← Item.next?_tokens h]; simp [Nat.add_assoc]⟩
  unfold Item.next? at h
  split at h
  · contradiction
  · next t r _ =>
    simp only [Option.some.injEq, Prod.mk.injEq] at h
    obtain ⟨_, rfl, _⟩ := h
    exact List.length_pos_iff.2 (Item.read_tokens_ne_nil t r)

end ClassAtlas.Stylesheet
