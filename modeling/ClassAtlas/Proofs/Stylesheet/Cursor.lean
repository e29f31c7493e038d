/-
Rule lists read at one cursor. A scan cuts a block off before it looks into it. Here the items of a list are read with
a single cursor instead: a loop comes to the pieces of its list one by one, and into the block of an at-rule that holds
rules it sends another loop, which goes on from the cursor and has to leave it in front of the bracket that closes the
block, since the first loop goes on from there. That bracket ends whatever is being read in the block, and what another
loop leaves in front of it is held against the at-rule (`passage`).

A loop takes what is in front of the bracket that closes its block, or everything if it is in no block, and in it comes
to the items that a scan reads and finds what the scan finds (`follows_passage`). So nothing is ever left in front of a
bracket.
-/
import ClassAtlas.Proofs.Stylesheet.FirstBlock

namespace ClassAtlas.Stylesheet

/-! ## Cutting in a block -/

section Cut

variable {stop : Token → Bool} {pending : List Bracket} {ts taken left : List Token}

theorem append_of_cut (h : cut stop pending ts = (taken, left)) : taken ++ left = ts := by
  have hall := cut_append stop pending ts
  rwa [h] at hall

/-- What was cut off holds no stop. -/
theorem cut_taken (h : cut stop pending ts = (taken, left)) : cut stop pending taken = (taken, []) := by
  induction ts generalizing pending taken with
  | nil =>
    cases h
    rfl
  | cons t r ih =>
    by_cases hs : (pending.isEmpty && stop t) = true
    · rw [cut, if_pos hs] at h
      cases h
      rfl
    · rw [cut_cons_of_neg hs, Prod.mk.injEq] at h
      obtain ⟨rfl, hleft⟩ := h
      rw [cut_cons_of_neg hs, ih (Prod.ext rfl hleft)]

/-- What was left is not cut again. -/
theorem cut_left (h : cut stop pending ts = (taken, left)) : cut stop [] left = ([], left) := by
  cases left with
  | nil => rfl
  | cons u left => simp [cut, stop_of_cut h]

/-- An outer curly bracket stays open under all tokens but the one that closes it. -/
theorem nest_concat_curly {t : Token} (h : ¬ (pending.isEmpty && t.closesBlock) = true) :
    t.nest (pending ++ [.curly]) = t.nest pending ++ [.curly] := by
  unfold Token.nest
  cases hk : t.kind with
  | closing b =>
    cases pending with
    | nil =>
      have hb : ¬ (Bracket.curly = b) := by
        rintro rfl
        exact h (by simp [Token.closesBlock, hk])
      simp [hb]
    | cons p ps =>
      by_cases hp : p = b <;> simp [hp]
  | _ => rfl

/-- Cutting in a block goes on behind the bracket that closes the block. -/
theorem cut_concat_curly (stop : Token → Bool) (pending : List Bracket) (ts : List Token) :
    cut stop (pending ++ [.curly]) ts =
      match cut Token.closesBlock pending ts with
      | (body, []) => (body, [])
      | (body, u :: rest) => (body ++ u :: (cut stop [] rest).1, (cut stop [] rest).2) := by
  induction ts generalizing pending with
  | nil => rfl
  | cons t r ih =>
    have hopen : ¬ ((pending ++ [Bracket.curly]).isEmpty && stop t) = true := by simp
    rw [cut_cons_of_neg hopen]
    by_cases hs : (pending.isEmpty && t.closesBlock) = true
    · obtain ⟨hempty, hcloses⟩ := (Bool.and_eq_true _ _).mp hs
      obtain rfl := List.isEmpty_iff.1 hempty
      have hnest : t.nest ([] ++ [.curly]) = [] := nest_closer hcloses []
      rw [hnest, cut, if_pos hs]
      rfl
    · rw [nest_concat_curly hs, ih, cut_cons_of_neg hs]
      cases cut Token.closesBlock (t.nest pending) r with
      | mk body rest => cases rest <;> rfl

/-- Cutting behind a token that opens a block takes the block, and goes on behind it. -/
theorem cut_block (stop : Token → Bool) (o : Token) (ts : List Token) :
    cut stop [.curly] ts =
      ((Block.read o ts).1.body ++ ((Block.read o ts).1.closer.toList ++ (cut stop [] (Block.read o ts).2).1),
        (cut stop [] (Block.read o ts).2).2) := by
  have hcut := cut_concat_curly stop [] ts
  rw [List.nil_append] at hcut
  rw [hcut]
  unfold Block.read
  cases cut Token.closesBlock [] ts with
  | mk body rest => cases rest <;> simp [cut]

end Cut

/-- A block that is cut off is read from its tokens, whatever stands behind it if it is closed. -/
theorem Block.read_again (o : Token) (ts : List Token) {more : List Token}
    (hmore : (Block.read o ts).1.closer = none → more = []) :
    Block.read o ((Block.read o ts).1.body ++ ((Block.read o ts).1.closer.toList ++ more)) =
      ((Block.read o ts).1, more) := by
  cases hc : (Block.read o ts).1.closer with
  | some u =>
    have hread : Block.read o ts = ((Block.read o ts).1, (Block.read o ts).2) := rfl
    obtain ⟨v, -, htokens, hread⟩ := Block.read_replace hread (by rw [hc]; rfl)
    have huv : (Block.read o ts).1.opener = o ∧ u = v := by
      unfold Block.tokens at htokens
      rw [hc] at htokens
      simpa using htokens
    rw [huv.2]
    exact hread more
  | none =>
    have hall := Block.read_tokens o ts
    rw [Block.read_rest_of_unclosed hc, Block.tokens, hc] at hall
    have hbody : (Block.read o ts).1.body = ts := by simpa using (List.cons.inj hall).2
    obtain rfl := hmore hc
    rw [hbody, Option.toList_none, List.append_nil, List.append_nil]
    exact Prod.ext rfl (Block.read_rest_of_unclosed hc)

theorem Block.length_read_le (o : Token) (ts : List Token) : (Block.read o ts).2.length ≤ ts.length := by
  have hall := congrArg List.length (Block.read_tokens o ts)
  simp only [Block.tokens, List.cons_append, List.length_cons, List.length_append] at hall
  omega

/-! ## Heads of items -/

/-- Whether a rule list ends in front of a token: in a block, at the bracket that closes it. -/
def Token.endsList (inBlock : Bool) (t : Token) : Bool :=
  inBlock && t.closesBlock

/-- Whether the head of the item that starts with a token ends in front of another token: at a block, where the list
ends, and, if it is an at-rule, at a semicolon. -/
def Token.endsHead (inBlock : Bool) (t u : Token) : Bool :=
  u.opensBlock || u.endsList inBlock || t.kind == .atKeyword && u.kind == .semicolon

/-- The item that starts with a token, made of its head and of what ends it. -/
def Item.ofHead (t : Token) (head : List Token) (ending : Ending) : Item :=
  if t.kind = .atKeyword then
    .atRule t head.tail ending
  else
    match ending with
    | .block b => .style head b
    | .semicolon _ | .listEnd => .unfinished head

section Head

variable {inBlock : Bool} {t u : Token} {r head left : List Token}

@[simp] theorem endsList_false (t : Token) : t.endsList false = false := rfl

theorem endsList_of_opensBlock (h : u.opensBlock = true) : u.endsList inBlock = false := by
  simp only [Token.endsList, Token.closesBlock, beq_iff_eq.1 h]
  cases inBlock <;> rfl

theorem isSemicolon_of_endsHead (h : t.endsHead inBlock u = true) (ho : ¬ u.opensBlock = true)
    (hl : ¬ u.endsList inBlock = true) : t.kind = .atKeyword ∧ u.kind = .semicolon := by
  unfold Token.endsHead at h
  simpa [ho, hl] using h

theorem endsHead_of_endsHead_false (h : t.endsHead false u = true) : t.endsHead inBlock u = true := by
  simp only [Token.endsHead, Token.endsList, Bool.false_and, Bool.or_false, Bool.or_eq_true] at h ⊢
  rcases h with h | h
  · exact .inl (.inl h)
  · exact .inr h

/-- The head of an at-rule starts with its keyword. -/
theorem head_atRule (hcut : cut (t.endsHead inBlock) [] (t :: r) = (head, left)) (hk : t.kind = .atKeyword) :
    head = t :: head.tail := by
  have hstop : ¬ (([] : List Bracket).isEmpty && t.endsHead inBlock t) = true := by
    simp [Token.endsHead, Token.endsList, Token.opensBlock, Token.closesBlock, hk]
  rw [cut_cons_of_neg hstop, Prod.mk.injEq] at hcut
  rw [← hcut.1, List.tail_cons]

theorem Item.tokens_ofHead (hcut : cut (t.endsHead inBlock) [] (t :: r) = (head, left)) {ending : Ending}
    (he : t.kind = .atKeyword ∨ ∀ u, ending ≠ .semicolon u) :
    (Item.ofHead t head ending).tokens = head ++ ending.tokens := by
  unfold Item.ofHead
  by_cases hk : t.kind = .atKeyword
  · have hhead := head_atRule hcut hk
    rw [if_pos hk, Item.tokens, ← hhead]
  · rw [if_neg hk]
    cases ending with
    | semicolon u => exact absurd rfl (he.resolve_left hk u)
    | block b => rfl
    | listEnd => simp [Item.tokens, Ending.tokens]

theorem rest_length_lt {rest : List Token} (hcut : cut (t.endsHead inBlock) [] (t :: r) = (head, u :: rest)) :
    rest.length < (t :: r).length := by
  have hlength := congrArg List.length (append_of_cut hcut)
  simp only [List.length_append, List.length_cons] at hlength ⊢
  omega

theorem left_length_lt {rest : List Token} (hcut : cut (t.endsHead inBlock) [] (t :: r) = (head, u :: rest))
    (ht : ¬ t.endsList inBlock = true) (hu : u.endsList inBlock = true) : (u :: rest).length < (t :: r).length := by
  have hall := append_of_cut hcut
  have hlength := congrArg List.length hall
  cases head with
  | nil =>
    rw [List.nil_append, List.cons.injEq] at hall
    rw [hall.1] at hu
    exact absurd hu ht
  | cons =>
    simp only [List.length_append, List.length_cons] at hlength ⊢
    omega

end Head

/-! ## The loop -/

/-- What a loop comes to: a token between items, an `@charset` rule in front of all items, which is passed over too, or
an item that is handed on. -/
inductive Piece
  | between (t : Token)
  | charset (i : Item)
  | item (i : Item)

def Piece.tokens : Piece → List Token
  | .between t => [t]
  | .charset i | .item i => i.tokens

/-- The item of a piece, if it is one. -/
def Piece.item? : Piece → Option Item
  | .between _ => none
  | .charset i | .item i => some i

def Item.isCharset : Item → Bool
  | .atRule keyword _ _ => namesKeyword (keyword.text.drop 1) "charset"
  | _ => false

/-- An item as a piece, the first one of its list or a later one. -/
def Piece.ofItem (first : Bool) (i : Item) : Piece :=
  if first && i.isCharset then .charset i else .item i

@[simp] theorem Piece.tokens_ofItem (first : Bool) (i : Item) : (Piece.ofItem first i).tokens = i.tokens := by
  unfold Piece.ofItem
  split <;> rfl

@[simp] theorem Piece.item?_ofItem (first : Bool) (i : Item) : (Piece.ofItem first i).item? = some i := by
  unfold Piece.ofItem
  split <;> rfl

/-- What a loop has done with the tokens from where it started: the pieces that it came to, what it found in them, and
where it left the cursor. No token is lost, added or moved. -/
structure Passage (ts : List Token) where
  pieces : List Piece
  found : List Finding
  left : List Token
  whole : pieces.flatMap Piece.tokens ++ left = ts

namespace Passage

variable {ts rest : List Token}

/-- The tokens that a loop has taken. -/
def taken (p : Passage ts) : List Token :=
  p.pieces.flatMap Piece.tokens

/-- The loop ends here. -/
def stop (ts : List Token) : Passage ts := ⟨[], [], ts, rfl⟩

/-- One turn of the loop, and the turns behind it. -/
def turn (x : Piece) (found : List Finding) (h : x.tokens ++ rest = ts) (next : Passage rest) : Passage ts where
  pieces := x :: next.pieces
  found := found ++ next.found
  left := next.left
  whole := by rw [List.flatMap_cons, List.append_assoc, next.whole, h]

/-- The block behind its opening token, after a loop has gone into it: what that loop has left in front of the closing
bracket is skipped. Gives the block and what follows it. -/
def block (o : Token) (inner : Passage ts) : Block × List Token :=
  let (skipped, rest) := Block.read o inner.left
  (⟨o, inner.taken ++ skipped.body, skipped.closer⟩, rest)

/-- Whether nothing but spacing was left in front of the closing bracket. -/
def isSpent (p : Passage ts) : Bool :=
  (p.left.dropWhile Token.isSpacing).head?.all Token.closesBlock

theorem block_tokens (o : Token) (inner : Passage ts) :
    (inner.block o).1.tokens ++ (inner.block o).2 = o :: ts := by
  have hread := Block.read_tokens o inner.left
  have hwhole : inner.taken ++ inner.left = ts := inner.whole
  simp only [Block.tokens, block, List.cons_append, List.append_assoc, List.cons.injEq, true_and] at hread ⊢
  rw [hread.2, hwhole]

theorem length_block_le (o : Token) (inner : Passage ts) : (inner.block o).2.length ≤ ts.length := by
  have hall := congrArg List.length (inner.block_tokens o)
  simp only [Block.tokens, List.cons_append, List.length_cons, List.length_append] at hall
  omega

end Passage

section Whole

variable {inBlock first : Bool} {t u : Token} {r head left rest more : List Token}

theorem whole_of_end (hcut : cut (t.endsHead inBlock) [] (t :: r) = (head, left)) :
    (Piece.ofItem first (Item.ofHead t head .listEnd)).tokens ++ left = t :: r := by
  rw [Piece.tokens_ofItem, Item.tokens_ofHead hcut (.inr fun u => by nofun), Ending.tokens, List.append_nil,
    append_of_cut hcut]

theorem whole_of_semicolon (hcut : cut (t.endsHead inBlock) [] (t :: r) = (head, u :: rest))
    (ho : ¬ u.opensBlock = true) (hl : ¬ u.endsList inBlock = true) :
    (Piece.ofItem first (Item.ofHead t head (.semicolon u))).tokens ++ rest = t :: r := by
  have hk := (isSemicolon_of_endsHead (stop_of_cut hcut) ho hl).1
  rw [Piece.tokens_ofItem, Item.tokens_ofHead hcut (.inl hk), Ending.tokens, List.append_assoc,
    List.singleton_append, append_of_cut hcut]

theorem whole_of_block (hcut : cut (t.endsHead inBlock) [] (t :: r) = (head, u :: rest)) {b : Block}
    (hb : b.tokens ++ more = u :: rest) :
    (Piece.ofItem first (Item.ofHead t head (.block b))).tokens ++ more = t :: r := by
  rw [Piece.tokens_ofItem, Item.tokens_ofHead hcut (.inr fun u => by nofun), Ending.tokens, List.append_assoc, hb,
    append_of_cut hcut]

end Whole

/-- A loop over a rule list, in a block or not, that starts at a mark with the cursor in front of some tokens. -/
def passage (inBlock first : Bool) (m : Mark) : (ts : List Token) → Passage ts
  | [] => .stop []
  | t :: r =>
    if t.endsList inBlock then
      .stop (t :: r)
    else if t.isBetween then
      .turn (.between t) [] rfl (passage inBlock first (m.advance t.text) r)
    else
      match hcut : cut (t.endsHead inBlock) [] (t :: r) with
      | (head, []) =>
        let item := Item.ofHead t head .listEnd
        .turn (.ofItem first item) (item.findings m) (whole_of_end hcut) (.stop [])
      | (head, u :: rest) =>
        if ho : u.opensBlock then
          if t.kind = .atKeyword ∧ t.isGrouping then
            let inner := passage true true (m.advance (textOf (head ++ [u]))) rest
            let item := Item.ofHead t head (.block (inner.block u).1)
            let failure := Rejection.ofTokens (m.advance (textOf (head ++ u :: inner.taken))).location item.tokens
            .turn (.ofItem first item) (inner.found ++ if inner.isSpent then [] else [.rejection failure])
              (whole_of_block hcut (inner.block_tokens u))
              (passage inBlock false (m.advance (textOf item.tokens)) (inner.block u).2)
          else
            let item := Item.ofHead t head (.block (Block.read u rest).1)
            .turn (.ofItem first item) (item.findings m) (whole_of_block hcut (Block.read_tokens u rest))
              (passage inBlock false (m.advance (textOf item.tokens)) (Block.read u rest).2)
        else if hu : u.endsList inBlock then
          let item := Item.ofHead t head .listEnd
          .turn (.ofItem first item) (item.findings m) (whole_of_end hcut)
            (passage inBlock false (m.advance (textOf item.tokens)) (u :: rest))
        else
          let item := Item.ofHead t head (.semicolon u)
          .turn (.ofItem first item) (item.findings m) (whole_of_semicolon hcut ho hu)
            (passage inBlock false (m.advance (textOf item.tokens)) rest)
termination_by ts => ts.length
decreasing_by
  · exact Nat.lt_succ_self _
  · exact rest_length_lt hcut
  · exact Nat.lt_of_le_of_lt (inner.length_block_le u) (rest_length_lt hcut)
  · exact Nat.lt_of_le_of_lt (Block.length_read_le u rest) (rest_length_lt hcut)
  · exact left_length_lt hcut ‹_› hu
  · exact rest_length_lt hcut

/-! ## What a loop takes and finds -/

/-- The items of a list, as a scan reads one after the other. -/
def itemsOf (ts : List Token) : List Item :=
  match h : Item.next? ts with
  | none => []
  | some (_, item, rest) =>
    have := Item.next?_length_lt h
    item :: itemsOf rest
termination_by ts.length
decreasing_by omega

section Items

variable {ts rest gap : List Token} {item : Item}

theorem itemsOf_none (h : Item.next? ts = none) : itemsOf ts = [] := by
  rw [itemsOf]
  split
  · rfl
  · next h' => rw [h] at h'; cases h'

theorem itemsOf_some (h : Item.next? ts = some (gap, item, rest)) : itemsOf ts = item :: itemsOf rest := by
  rw [itemsOf]
  split
  · next h' => rw [h] at h'; cases h'
  · next h' =>
    rw [h] at h'
    cases h'
    rfl

theorem itemsOf_between {t : Token} (ht : t.isBetween = true) (ts : List Token) : itemsOf (t :: ts) = itemsOf ts := by
  have hnext := next?_between ht ts
  cases h : Item.next? ts with
  | none =>
    rw [h] at hnext
    rw [itemsOf_none hnext, itemsOf_none h]
  | some found =>
    obtain ⟨gap, item, rest⟩ := found
    rw [h] at hnext
    rw [itemsOf_some hnext, itemsOf_some h]

end Items

/-- The pieces that a loop comes to, from its first item on or behind it: tokens between items are passed over, and so is
an `@charset` rule that is the first item; every other item is handed on. -/
inductive Lined : Bool → List Piece → Prop
  | nil {first : Bool} : Lined first []
  | between {first : Bool} {t : Token} {r : List Piece} : t.isBetween = true → Lined first r →
      Lined first (.between t :: r)
  | charset {i : Item} {r : List Piece} : i.isCharset = true → i.tokens ≠ [] → Lined false r →
      Lined true (.charset i :: r)
  | item {first : Bool} {i : Item} {r : List Piece} : (first && i.isCharset) = false → i.tokens ≠ [] →
      Lined false r → Lined first (.item i :: r)

/-- A loop takes what is in front of the end of its list, and comes to the items that a scan reads there and finds what
it finds. -/
structure Follows (inBlock first : Bool) (m : Mark) {ts : List Token} (p : Passage ts) : Prop where
  lined : Lined first p.pieces
  left : p.left = (cut (Token.endsList inBlock) [] ts).2
  items : p.pieces.filterMap Piece.item? = itemsOf (cut (Token.endsList inBlock) [] ts).1
  found : p.found = scanList m (cut (Token.endsList inBlock) [] ts).1

theorem Lined.ofItem {first : Bool} {i : Item} {r : List Piece} (hi : i.tokens ≠ []) (h : Lined false r) :
    Lined first (.ofItem first i :: r) := by
  unfold Piece.ofItem
  cases hc : first && i.isCharset with
  | true =>
    obtain ⟨rfl, hcharset⟩ := (Bool.and_eq_true _ _).mp hc
    exact .charset hcharset hi h
  | false => exact .item hc hi h

section Turns

variable {inBlock first : Bool} {m : Mark} {t u : Token} {r head left rest : List Token} {item : Item}

/-- Reading an item is cutting off its head, and then its block if there is one. -/
theorem read_eq_ofHead (t : Token) (r : List Token) :
    Item.read t r =
      match cut (t.endsHead false) [] (t :: r) with
      | (head, []) => (.ofHead t head .listEnd, [])
      | (head, u :: rest) =>
        if u.opensBlock then (.ofHead t head (.block (Block.read u rest).1), (Block.read u rest).2)
        else (.ofHead t head (.semicolon u), rest) := by
  unfold Item.read
  by_cases hk : t.kind = .atKeyword
  · have hends : t.endsHead false = fun u => u.kind == .semicolon || u.opensBlock := by
      funext u
      simp [Token.endsHead, Token.endsList, hk, Bool.or_comm]
    have hstop : ¬ (([] : List Bracket).isEmpty && (t.kind == .semicolon || t.opensBlock)) = true := by
      simp [Token.opensBlock, hk]
    have hnest : t.nest [] = [] := by rw [Token.nest, hk]
    rw [if_pos hk, hends, cut_cons_of_neg hstop, hnest]
    cases cut (fun u => u.kind == .semicolon || u.opensBlock) [] r with
    | mk prelude left => cases left <;> simp [Item.ofHead, hk]
  · have hends : t.endsHead false = Token.opensBlock := by
      funext u
      simp [Token.endsHead, Token.endsList, hk]
    rw [if_neg hk, hends]
    cases hcut : cut Token.opensBlock [] (t :: r) with
    | mk head left =>
      cases left with
      | nil => simp [Item.ofHead, hk]
      | cons u rest => simp [Item.ofHead, hk, stop_of_cut hcut]

theorem endsHead_of_endsList (h : u.endsList inBlock = true) : t.endsHead inBlock u = true := by
  simp [Token.endsHead, h]

/-- A list ends where the head of an item runs into its end. -/
theorem cut_endsList_end (hcut : cut (t.endsHead inBlock) [] (t :: r) = (head, left))
    (hleft : ∀ u ∈ left.head?, u.endsList inBlock = true) :
    cut (Token.endsList inBlock) [] (t :: r) = (head, left) := by
  rw [cut_of_imp (fun _ => endsHead_of_endsList) (t :: r), hcut]
  cases left with
  | nil => rfl
  | cons u rest => simp [hleft u rfl]

/-- A list goes on behind a head that ends itself. -/
theorem cut_endsList_cons (hcut : cut (t.endsHead inBlock) [] (t :: r) = (head, u :: rest))
    (hu : u.endsList inBlock = false) :
    cut (Token.endsList inBlock) [] (t :: r) =
      (head ++ u :: (cut (Token.endsList inBlock) (u.nest []) rest).1,
        (cut (Token.endsList inBlock) (u.nest []) rest).2) := by
  rw [cut_of_imp (fun _ => endsHead_of_endsList) (t :: r), hcut]
  simp [hu]

/-- A head that ends itself ends in the same place when the list is cut off in front of its end. -/
theorem cut_endsHead_false (hcut : cut (t.endsHead inBlock) [] (t :: r) = (head, u :: rest))
    (hu : u.endsList inBlock = false) (more : List Token) :
    cut (t.endsHead false) [] (head ++ u :: more) = (head, u :: more) := by
  have hstop : t.endsHead false u = true := by
    have hstop := stop_of_cut hcut
    unfold Token.endsHead at hstop ⊢
    simpa [hu] using hstop
  rw [cut_of_imp fun _ => endsHead_of_endsHead_false, cut_replace hcut more]
  simp [hstop]

theorem exists_cons_of_cut (hcut : cut (t.endsHead inBlock) [] (t :: r) = (head, u :: rest)) (more : List Token) :
    ∃ inner, head ++ u :: more = t :: inner := by
  have hall := append_of_cut hcut
  cases head with
  | nil => exact ⟨more, by rw [(List.cons.inj hall).1]; rfl⟩
  | cons v head => exact ⟨head ++ u :: more, by rw [(List.cons.inj hall).1]; rfl⟩

/-- An item comes first in a list that goes on with some tokens: in front of the end of the list stand its tokens and
then those of the rest, and it is the item that is read there. -/
structure Leads (inBlock : Bool) (t : Token) (r : List Token) (item : Item) (rest : List Token) : Prop where
  cut : cut (Token.endsList inBlock) [] (t :: r) =
    (item.tokens ++ (cut (Token.endsList inBlock) [] rest).1, (cut (Token.endsList inBlock) [] rest).2)
  read : ∃ inner, item.tokens ++ (Stylesheet.cut (Token.endsList inBlock) [] rest).1 = t :: inner ∧
    Item.read t inner = (item, (Stylesheet.cut (Token.endsList inBlock) [] rest).1)

theorem leads_end (ht : ¬ t.endsList inBlock = true) (hcut : cut (t.endsHead inBlock) [] (t :: r) = (head, left))
    (hleft : ∀ u ∈ left.head?, u.endsList inBlock = true) : Leads inBlock t r (.ofHead t head .listEnd) left := by
  have htokens : (Item.ofHead t head .listEnd).tokens = head ++ [] :=
    Item.tokens_ofHead hcut (.inr fun u => by nofun)
  rw [List.append_nil] at htokens
  have hlist := cut_endsList_end hcut hleft
  have hrest := cut_left hlist
  obtain ⟨inner, hhead⟩ : ∃ inner, head = t :: inner := by
    have hall := append_of_cut hcut
    cases head with
    | nil =>
      rw [List.nil_append] at hall
      exact absurd (hleft t (by rw [hall]; rfl)) ht
    | cons v inner => exact ⟨inner, by rw [(List.cons.inj hall).1]⟩
  refine ⟨by rw [htokens, hrest, hlist, List.append_nil], inner, by rw [htokens, hrest, List.append_nil, hhead], ?_⟩
  have hown : cut (t.endsHead false) [] head = (head, []) := by
    rw [cut_of_imp fun _ => endsHead_of_endsHead_false, cut_taken hcut]
  rw [read_eq_ofHead, ← hhead, hown, hrest]

theorem leads_semicolon (hcut : cut (t.endsHead inBlock) [] (t :: r) = (head, u :: rest)) (ho : ¬ u.opensBlock = true)
    (hl : ¬ u.endsList inBlock = true) : Leads inBlock t r (.ofHead t head (.semicolon u)) rest := by
  obtain ⟨hk, hu⟩ := isSemicolon_of_endsHead (stop_of_cut hcut) ho hl
  have htokens : (Item.ofHead t head (.semicolon u)).tokens = head ++ [u] := Item.tokens_ofHead hcut (.inl hk)
  have hnest : u.nest [] = [] := by rw [Token.nest, hu]
  obtain ⟨inner, hinner⟩ := exists_cons_of_cut hcut (cut (Token.endsList inBlock) [] rest).1
  refine ⟨?_, inner, ?_, ?_⟩
  · rw [cut_endsList_cons hcut (Bool.eq_false_iff.2 hl), htokens]
    simp [hnest]
  · rw [htokens, List.append_assoc, List.singleton_append, hinner]
  · rw [read_eq_ofHead, ← hinner, cut_endsHead_false hcut (Bool.eq_false_iff.2 hl)]
    simp [ho]

theorem leads_block (hcut : cut (t.endsHead inBlock) [] (t :: r) = (head, u :: rest)) (ho : u.opensBlock = true) :
    Leads inBlock t r (.ofHead t head (.block (Block.read u rest).1)) (Block.read u rest).2 := by
  have htokens : (Item.ofHead t head (.block (Block.read u rest).1)).tokens =
      head ++ (Block.read u rest).1.tokens := Item.tokens_ofHead hcut (.inr fun u => by nofun)
  have hl : u.endsList inBlock = false := endsList_of_opensBlock ho
  have hnest : u.nest [] = [.curly] := nest_opener (Token.opens?_of_opensBlock ho) []
  have hopener : (Block.read u rest).1.opener = u := rfl
  -- nothing is left behind a block that is not closed
  have hmore : (Block.read u rest).1.closer = none →
      (cut (Token.endsList inBlock) [] (Block.read u rest).2).1 = [] := by
    intro hc
    rw [Block.read_rest_of_unclosed hc]
    rfl
  obtain ⟨inner, hinner⟩ := exists_cons_of_cut hcut ((Block.read u rest).1.body ++
    ((Block.read u rest).1.closer.toList ++ (cut (Token.endsList inBlock) [] (Block.read u rest).2).1))
  refine ⟨?_, inner, ?_, ?_⟩
  · rw [cut_endsList_cons hcut hl, htokens]
    simp [hnest, cut_block _ u rest, Block.tokens, hopener]
  · rw [htokens, ← hinner]
    simp [Block.tokens, hopener]
  · rw [read_eq_ofHead, ← hinner, cut_endsHead_false hcut hl]
    simp [ho, Block.read_again u rest hmore]

/-- One turn of a loop takes the item that comes first. -/
theorem Follows.turn {found : List Finding} {h : (Piece.ofItem first item).tokens ++ rest = t :: r}
    {next : Passage rest} (hnext : Follows inBlock false (m.advance (textOf item.tokens)) next)
    (ht : ¬ t.isBetween = true) (hleads : Leads inBlock t r item rest) (hfound : found = item.findings m) :
    Follows inBlock first m (Passage.turn (.ofItem first item) found h next) := by
  obtain ⟨inner, htokens, hread⟩ := hleads.read
  have hitem : item.tokens ≠ [] := by
    have hne := Item.read_tokens_ne_nil t inner
    rwa [hread] at hne
  have hfirst := next?_item (Bool.eq_false_iff.2 ht) hread
  refine ⟨.ofItem hitem hnext.lined, ?_, ?_, ?_⟩
  · rw [hleads.cut]
    exact hnext.left
  · change (Piece.ofItem first item :: next.pieces).filterMap Piece.item? = _
    rw [List.filterMap_cons_some (Piece.item?_ofItem first item), hnext.items, hleads.cut, htokens, itemsOf_some hfirst]
  · have hscan := scanList_some m hfirst
    rw [hleads.cut]
    change found ++ next.found = scanList m (item.tokens ++ _)
    rw [htokens, hscan, hfound, hnext.found]
    rfl

end Turns

theorem follows_stop {inBlock first : Bool} (m : Mark) {ts : List Token}
    (h : ∀ t ∈ ts.head?, t.endsList inBlock = true) : Follows inBlock first m (Passage.stop ts) := by
  have hcut : cut (Token.endsList inBlock) [] ts = ([], ts) := by
    cases ts with
    | nil => rfl
    | cons t r => simp [cut, h t rfl]
  refine ⟨.nil, by rw [hcut]; rfl, ?_, ?_⟩
  · rw [hcut, itemsOf_none rfl]
    rfl
  · rw [hcut, scanList_nil]
    rfl

theorem Follows.cut_eq {inBlock first : Bool} {m : Mark} {ts : List Token} {p : Passage ts}
    (h : Follows inBlock first m p) : cut (Token.endsList inBlock) [] ts = (p.taken, p.left) := by
  have hall := cut_append (Token.endsList inBlock) [] ts
  rw [← h.left] at hall
  exact Prod.ext (List.append_cancel_right (hall.trans p.whole.symm)) h.left.symm

/-- A loop that was sent into a block leaves nothing of it in front of the closing bracket. -/
theorem Follows.block {m : Mark} {ts : List Token} {inner : Passage ts} (h : Follows true true m inner) (o : Token) :
    inner.isSpent = true ∧ inner.block o = Block.read o ts := by
  have hcut : cut Token.closesBlock [] ts = (inner.taken, inner.left) := h.cut_eq
  have hleft := cut_left hcut
  constructor
  · unfold Passage.isSpent
    cases hl : inner.left with
    | nil => rfl
    | cons u rest =>
      have hu : u.closesBlock = true := stop_of_cut (hl ▸ hcut)
      have hspacing : u.isSpacing = false := by
        unfold Token.isSpacing
        rw [beq_iff_eq.1 hu]
        rfl
      simp [hspacing, hu]
  · unfold Passage.block Block.read
    rw [hleft, hcut]
    simp

/-- A scan of an at-rule that holds rules finds what a loop finds in its block. -/
theorem Follows.findings_atRule {inBlock : Bool} {m : Mark} {t u : Token} {r head rest : List Token}
    {inner : Passage rest} (h : Follows true true (m.advance (textOf (head ++ [u]))) inner)
    (hcut : cut (t.endsHead inBlock) [] (t :: r) = (head, u :: rest)) (hk : t.kind = .atKeyword)
    (hg : t.isGrouping = true) : (Item.ofHead t head (.block (inner.block u).1)).findings m = inner.found := by
  have hopening : t :: head.tail ++ [u] = head ++ [u] := by rw [← head_atRule hcut hk]
  have hfound : inner.found = scanList (m.advance (textOf (head ++ [u]))) (Block.read u rest).1.body := h.found
  rw [(h.block u).2, Item.ofHead, if_pos hk, Item.findings, if_pos hg, hfound, ← hopening]
  rfl

/-- A loop reads its list as a scan does, in a block or not. -/
theorem follows_passage (inBlock first : Bool) (m : Mark) (ts : List Token) :
    Follows inBlock first m (passage inBlock first m ts) := by
  -- one case for each end of the loop, and one for each kind of turn
  fun_induction passage inBlock first m ts with
  | case1 inBlock first m => exact follows_stop m (by simp)
  | case2 inBlock first m t r ht => exact follows_stop m (by simpa using ht)
  | case3 inBlock first m t r ht hbetween ih =>
    have hstop : ¬ (([] : List Bracket).isEmpty && t.endsList inBlock) = true := by simpa using ht
    have hcut := cut_cons_of_neg hstop r
    rw [nest_nil_of_isBetween hbetween] at hcut
    refine ⟨.between hbetween ih.lined, ?_, ?_, ?_⟩
    · rw [hcut]
      exact ih.left
    · rw [hcut, itemsOf_between hbetween, ← ih.items]
      rfl
    · rw [hcut, scanList_between hbetween, ← ih.found]
      rfl
  | case4 inBlock first m t r ht hbetween head hcut =>
    exact (follows_stop _ (by simp)).turn hbetween (leads_end ht hcut (by simp)) rfl
  | case5 inBlock first m t r ht hbetween head u rest hcut ho hg inner item failure ihInner ih =>
    obtain ⟨hspent, hblock⟩ := ihInner.block u
    have hleads := leads_block hcut ho
    rw [← hblock] at hleads
    refine ih.turn (h := whole_of_block hcut (inner.block_tokens u)) hbetween hleads ?_
    rw [if_pos hspent, List.append_nil]
    exact (ihInner.findings_atRule hcut hg.1 hg.2).symm
  | case6 inBlock first m t r ht hbetween head u rest hcut ho hg item ih =>
    exact ih.turn hbetween (leads_block hcut ho) rfl
  | case7 inBlock first m t r ht hbetween head u rest hcut ho hl item ih =>
    exact ih.turn hbetween (leads_end ht hcut (by simpa using hl)) rfl
  | case8 inBlock first m t r ht hbetween head u rest hcut ho hl item ih =>
    exact ih.turn hbetween (leads_semicolon hcut ho hl) rfl

end ClassAtlas.Stylesheet
