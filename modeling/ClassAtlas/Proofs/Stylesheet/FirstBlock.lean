/-
The first block of a stylesheet. The first block outside all brackets ends an item, or there is none
(`firstBlock?_read`). A scan finds what it finds up to the end of that block, and then what it finds behind it;
without such a block it finds no rule, and at most one piece is rejected (`scansByBlock`).
-/
import ClassAtlas.Proofs.Stylesheet.Appended

namespace ClassAtlas.Stylesheet

/-- Parts a list of tokens at the first block outside all brackets: what leads up to the block, the block, and what is
behind it. -/
def firstBlock? (ts : List Token) : Option (List Token × Block × List Token) :=
  match cut Token.opensBlock [] ts with
  | (_, []) => none
  | (lead, o :: left) => some (lead, Block.read o left)

/-- What is found, with tokens that are passed over in front of it. -/
def passing (front : List Token) :
    Option (List Token × Block × List Token) → Option (List Token × Block × List Token) :=
  Option.map fun (lead, found) => (front ++ lead, found)

/-! ## Cutting at fewer tokens -/

section Cut

variable {stop : Token → Bool} {pending : List Bracket} {t : Token}

theorem cut_cons_of_neg (h : ¬ (pending.isEmpty && stop t) = true) (ts : List Token) :
    cut stop pending (t :: ts) = (t :: (cut stop (t.nest pending) ts).1, (cut stop (t.nest pending) ts).2) := by
  rw [cut, if_neg h]

/-- Where fewer tokens stop a reading, it goes on behind a token that would have stopped it. -/
theorem cut_of_imp {fewer : Token → Bool} (himp : ∀ t, fewer t = true → stop t = true) (ts : List Token) :
    cut fewer pending ts =
      match cut stop pending ts with
      | (taken, []) => (taken, [])
      | (taken, u :: left) =>
        if fewer u then (taken, u :: left)
        else (taken ++ u :: (cut fewer (u.nest []) left).1, (cut fewer (u.nest []) left).2) := by
  induction ts generalizing pending with
  | nil => rfl
  | cons t ts ih =>
    by_cases hs : (pending.isEmpty && stop t) = true
    · obtain ⟨hempty, -⟩ := (Bool.and_eq_true _ _).mp hs
      obtain rfl := List.isEmpty_iff.1 hempty
      rw [cut, cut, if_pos hs]
      rfl
    · have hf : ¬ (pending.isEmpty && fewer t) = true := by
        intro hf
        rw [Bool.and_eq_true] at hf hs
        exact hs ⟨hf.1, himp t hf.2⟩
      rw [cut_cons_of_neg hf, cut_cons_of_neg hs, ih]
      cases hcut : cut stop (t.nest pending) ts with
      | mk taken left =>
        cases left with
        | nil => rfl
        | cons u left =>
          dsimp only
          split <;> rfl

end Cut

/-! ## The ways of an item -/

/-- Whether a token ends an at-rule, outside all brackets. -/
def Token.endsAtRule (t : Token) : Bool :=
  t.kind == .semicolon || t.opensBlock

/-- How an item that starts with a token can be read. -/
inductive Reads (t : Token) (ts : List Token) : Item × List Token → Prop
  | listEnd {prelude : List Token} : t.kind = .atKeyword → cut Token.endsAtRule [] ts = (prelude, []) →
      Reads t ts (.atRule t prelude .listEnd, [])
  | statement {prelude left : List Token} {u : Token} : t.kind = .atKeyword →
      cut Token.endsAtRule [] ts = (prelude, u :: left) → u.kind = .semicolon →
      Reads t ts (.atRule t prelude (.semicolon u), left)
  | atRule {prelude left : List Token} {u : Token} : t.kind = .atKeyword →
      cut Token.endsAtRule [] ts = (prelude, u :: left) → u.opensBlock = true →
      Reads t ts (.atRule t prelude (.block (Block.read u left).1), (Block.read u left).2)
  | style {prelude left : List Token} {u : Token} : t.kind ≠ .atKeyword →
      cut Token.opensBlock [] (t :: ts) = (prelude, u :: left) →
      Reads t ts (.style prelude (Block.read u left).1, (Block.read u left).2)
  | unfinished {prelude : List Token} : t.kind ≠ .atKeyword → cut Token.opensBlock [] (t :: ts) = (prelude, []) →
      Reads t ts (.unfinished prelude, [])

theorem reads_read (t : Token) (ts : List Token) : Reads t ts (Item.read t ts) := by
  unfold Item.read
  by_cases hk : t.kind = .atKeyword
  · rw [if_pos hk]
    cases hcut : cut (fun u => u.kind == .semicolon || u.opensBlock) [] ts with
    | mk prelude left =>
      cases left with
      | nil => exact .listEnd hk hcut
      | cons u left =>
        dsimp only
        split
        · next hu => exact .atRule hk hcut hu
        · next hu =>
          have hstop : (u.kind == .semicolon || u.opensBlock) = true := stop_of_cut hcut
          rw [Bool.or_eq_true, or_iff_left hu] at hstop
          exact .statement hk hcut (beq_iff_eq.1 hstop)
  · rw [if_neg hk]
    cases hcut : cut Token.opensBlock [] (t :: ts) with
    | mk prelude left =>
      cases left with
      | nil => exact .unfinished hk hcut
      | cons u left => exact .style hk hcut

section Item

variable {t : Token} {ts rest : List Token} {item : Item}

theorem Block.read_rest_of_unclosed {o : Token} (h : (Block.read o ts).1.closer = none) : (Block.read o ts).2 = [] := by
  unfold Block.read at h ⊢
  dsimp only at h ⊢
  rw [List.head?_eq_none_iff.1 h, List.tail_nil]

/-- Nothing is left behind an item that does not end by itself. -/
theorem rest_eq_nil_of_read (h : Item.read t ts = (item, rest)) (hi : item.isTerminated = false) : rest = [] := by
  have hreads := h ▸ reads_read t ts
  cases hreads with
  | listEnd => rfl
  | statement => cases hi
  | atRule => exact Block.read_rest_of_unclosed (Option.isNone_iff_eq_none.1 (Option.isSome_eq_false_iff.1 hi))
  | style => exact Block.read_rest_of_unclosed (Option.isNone_iff_eq_none.1 (Option.isSome_eq_false_iff.1 hi))
  | unfinished => rfl

/-- An item is read again where it stands alone. -/
theorem read_alone (h : Item.read t ts = (item, rest)) :
    ∃ inner, item.tokens = t :: inner ∧ Item.read t inner = (item, []) := by
  cases hi : item.isTerminated with
  | true =>
    obtain ⟨inner, u, htokens, -, hmore⟩ := endsItself_of_isTerminated h hi
    exact ⟨inner ++ [u], htokens, hmore []⟩
  | false =>
    obtain rfl := rest_eq_nil_of_read h hi
    have htokens := Item.read_tokens t ts
    rw [h, List.append_nil] at htokens
    exact ⟨ts, htokens, h⟩

/-- A scan finds what is in an item that nothing is left behind. -/
theorem scanList_last (ht : t.isBetween = false) (h : Item.read t ts = (item, [])) (m : Mark) :
    scanList m (t :: ts) = item.findings m := by
  rw [scanList_some m (next?_item ht h), scanList_nil, List.append_nil]
  rfl

/-- A scan finds what is in the first item, and then what is behind it. -/
theorem scanList_item (ht : t.isBetween = false) (h : Item.read t ts = (item, rest)) (m : Mark) :
    scanList m (t :: ts) = scanList m item.tokens ++ scanList (m.advance (textOf item.tokens)) rest := by
  obtain ⟨inner, htokens, halone⟩ := read_alone h
  have hitem : scanList m item.tokens = item.findings m := by rw [htokens, scanList_last ht halone]
  rw [scanList_some m (next?_item ht h), hitem]
  rfl

end Item

/-! ## The first block -/

section FirstBlock

variable {t : Token} {ts rest : List Token} {item : Item}

/-- Tokens that are passed over lead up to the first block. -/
theorem firstBlock?_cons (hopen : t.opensBlock = false) (hnest : t.nest [] = []) (ts : List Token) :
    firstBlock? (t :: ts) = passing [t] (firstBlock? ts) := by
  have hstop : ¬ (([] : List Bracket).isEmpty && t.opensBlock) = true := by rw [hopen]; decide
  unfold firstBlock?
  rw [cut_cons_of_neg hstop, hnest]
  cases hcut : cut Token.opensBlock [] ts with
  | mk lead left => cases left <;> rfl

/-- The first block is that of the first item, unless a semicolon ends it. -/
def Item.firstBlock? (item : Item) (rest : List Token) : Option (List Token × Block × List Token) :=
  match item with
  | .atRule _ _ (.semicolon _) => passing item.tokens (Stylesheet.firstBlock? rest)
  | .atRule keyword prelude (.block b) => some (keyword :: prelude, b, rest)
  | .style prelude b => some (prelude, b, rest)
  | .atRule _ _ .listEnd | .unfinished _ => none

theorem firstBlock?_read (h : Item.read t ts = (item, rest)) : firstBlock? (t :: ts) = item.firstBlock? rest := by
  have hreads := h ▸ reads_read t ts
  have himp : ∀ u : Token, u.opensBlock = true → u.endsAtRule = true := fun u hu => by
    rw [Token.endsAtRule, hu, Bool.or_true]
  have hat : t.kind = .atKeyword → firstBlock? (t :: ts) = passing [t] (firstBlock? ts) := by
    intro hk
    refine firstBlock?_cons ?_ ?_ ts
    · rw [Token.opensBlock, hk]; rfl
    · rw [Token.nest, hk]
  cases hreads with
  | listEnd hk hcut =>
    rw [hat hk, firstBlock?, cut_of_imp himp, hcut]
    rfl
  | @statement prelude _ u hk hcut hu =>
    have hpass : ¬ u.opensBlock = true := by rw [Token.opensBlock, hu]; decide
    have hnest : u.nest [] = [] := by rw [Token.nest, hu]
    rw [hat hk, firstBlock?, cut_of_imp himp, hcut]
    dsimp only
    rw [if_neg hpass, hnest, Item.firstBlock?, firstBlock?]
    cases cut Token.opensBlock [] rest with
    | mk lead left => cases left <;> simp [passing, Item.tokens, Ending.tokens]
  | atRule hk hcut hu =>
    rw [hat hk, firstBlock?, cut_of_imp himp, hcut]
    dsimp only
    rw [if_pos hu]
    rfl
  | style hk hcut =>
    rw [firstBlock?, hcut]
    rfl
  | unfinished hk hcut =>
    rw [firstBlock?, hcut]
    rfl

/-! ## Scanning by the first block -/

/-- What a scan finds, by the first block. -/
inductive ScansByBlock (m : Mark) (ts : List Token) : Option (List Token × Block × List Token) → Prop
  | none : rulesOf (scanList m ts) = [] → (rejectionsOf (scanList m ts)).length ≤ 1 → ScansByBlock m ts none
  | some {lead behind : List Token} {b : Block} :
      scanList m ts =
        scanList m (lead ++ b.tokens) ++ scanList (m.advance (textOf (lead ++ b.tokens))) behind →
      ScansByBlock m ts (some (lead, b, behind))

theorem ScansByBlock.passing {m : Mark} {front : List Token}
    (hfront : ∀ ts, scanList m (front ++ ts) = scanList (m.advance (textOf front)) ts)
    {found : Option (List Token × Block × List Token)} (h : ScansByBlock (m.advance (textOf front)) ts found) :
    ScansByBlock m (front ++ ts) (Stylesheet.passing front found) := by
  cases h with
  | none hrules hrejections => exact .none (by rwa [hfront]) (by rwa [hfront])
  | @some lead behind b hscan =>
    refine .some ?_
    rw [hfront, hscan, List.append_assoc, hfront, textOf_append front, Mark.advance_append]

/-- A piece without a block is rejected. -/
theorem exists_ofPrelude_none (m : Mark) (prelude : List Token) :
    ∃ r, Finding.ofPrelude m prelude none = .rejection r := by
  unfold Finding.ofPrelude
  cases readsAsDeclaration prelude with
  | true => exact ⟨_, rfl⟩
  | false => exact ⟨_, rfl⟩

theorem nest_nil_of_isBetween {t : Token} (ht : t.isBetween = true) : t.nest [] = [] := by
  unfold Token.isBetween Token.isSpacing at ht
  unfold Token.nest
  cases hk : t.kind <;> simp_all

/-- A scan passes over a statement. -/
theorem scanList_statement (ht : t.isBetween = false) {keyword u : Token} {prelude : List Token}
    (h : Item.read t ts = (.atRule keyword prelude (.semicolon u), rest)) (m : Mark) (more : List Token) :
    scanList m ((Item.atRule keyword prelude (.semicolon u)).tokens ++ more) =
      scanList (m.advance (textOf (Item.atRule keyword prelude (.semicolon u)).tokens)) more := by
  obtain ⟨inner, v, htokens, -, hmore⟩ := endsItself_of_isTerminated h rfl
  have hall : (Item.atRule keyword prelude (.semicolon u)).tokens ++ more = t :: (inner ++ v :: more) := by
    rw [htokens]
    simp
  rw [hall, scanList_some m (next?_item ht (hmore more))]
  rfl

/-- A scan finds what it finds up to the end of the first block, and then what it finds behind it; without such a
block it finds no rule, and rejects one piece at most. -/
theorem scansByBlock (m : Mark) (ts : List Token) : ScansByBlock m ts (firstBlock? ts) := by
  -- what is passed over leaves a shorter list with the same first block
  induction hn : ts.length using Nat.strongRecOn generalizing m ts with
  | ind n ih =>
    subst hn
    cases ts with
    | nil => exact .none (by rw [scanList_nil]; rfl) (by rw [scanList_nil]; exact Nat.zero_le _)
    | cons t ts =>
      cases ht : t.isBetween with
      | true =>
        have hopen : t.opensBlock = false := opensBlock_eq_false (opens?_of_isBetween ht)
        have hfront : ∀ ts, scanList m ([t] ++ ts) = scanList (m.advance (textOf [t])) ts := by
          intro ts
          rw [textOf, List.flatMap_singleton]
          exact scanList_between ht m ts
        rw [firstBlock?_cons hopen (nest_nil_of_isBetween ht)]
        exact .passing hfront (ih ts.length (Nat.lt_succ_self _) _ ts rfl)
      | false =>
        cases hread : Item.read t ts with
        | mk item rest =>
          have hscan := scanList_item ht hread m
          have htokens := Item.read_tokens t ts
          rw [hread] at htokens
          have hlast : item.isTerminated = false → scanList m (t :: ts) = item.findings m := fun hi =>
            scanList_last ht (rest_eq_nil_of_read hread hi ▸ hread) m
          rw [firstBlock?_read hread]
          cases item with
          | atRule keyword prelude ending =>
            cases ending with
            | semicolon u =>
              have hlength : rest.length < (t :: ts).length := by
                rw [← htokens, List.length_append]
                exact Nat.lt_add_of_pos_left (List.length_pos_iff.2 (List.cons_ne_nil _ _))
              rw [← htokens]
              exact .passing (scanList_statement ht hread m) (ih rest.length hlength _ rest rfl)
            | block b => exact .some hscan
            | listEnd => exact .none (by rw [hlast rfl]; rfl) (by rw [hlast rfl]; exact Nat.zero_le _)
          | style prelude b => exact .some hscan
          | unfinished prelude =>
            obtain ⟨r, hr⟩ := exists_ofPrelude_none m prelude
            have hfound : scanList m (t :: ts) = [.rejection r] := by rw [hlast rfl, Item.findings, hr]
            exact .none (by rw [hfound]; rfl) (by rw [hfound]; exact Nat.le_refl _)

end FirstBlock

end ClassAtlas.Stylesheet
