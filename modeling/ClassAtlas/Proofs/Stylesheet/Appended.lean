/-
Stylesheets one behind the other. If all that stands in a stylesheet ends in itself (`Terminated`), nothing
of how it was read is left over for what is written behind it: a scan of both finds what it finds in the
first, and then what it finds in the second, at the places behind the first (`scan_terminated_append`).
-/
import ClassAtlas.Proofs.Stylesheet.Joined
import ClassAtlas.Proofs.Stylesheet.Shifted

namespace ClassAtlas.Stylesheet

open Token

/-! ## What ends in itself -/

/-- Whether an item has its own end: a semicolon, or the bracket that closes its block. -/
def Item.isTerminated : Item → Bool
  | .atRule _ _ (.semicolon _) => true
  | .atRule _ _ (.block b) => b.closer.isSome
  | .atRule _ _ .listEnd => false
  | .style _ b => b.closer.isSome
  | .unfinished _ => false

/-- White space, a comment with its closing mark, or one of the marks `<!--` and `-->`. -/
structure Token.IsComplete (t : Token) : Prop where
  between : t.isBetween = true
  comment : t.kind = .comment → ['*', '/'] <:+ t.text.drop 2

instance (t : Token) : Decidable t.IsComplete :=
  decidable_of_iff (t.isBetween = true ∧ (t.kind = .comment → ['*', '/'] <:+ t.text.drop 2))
    ⟨fun h => ⟨h.1, h.2⟩, fun h => ⟨h.between, h.comment⟩⟩

/-- A rule list that holds nothing but white space, comments, marks, and items with their own ends. -/
inductive Terminated : List Token → Prop
  | nil : Terminated []
  | between {t : Token} {ts : List Token} : t.IsComplete → Terminated ts → Terminated (t :: ts)
  | item {t : Token} {ts rest : List Token} {item : Item} : t.isBetween = false →
      Item.read t ts = (item, rest) → item.isTerminated = true → Terminated rest → Terminated (t :: ts)

theorem terminated_cons_iff {t : Token} {ts : List Token} : Terminated (t :: ts) ↔
    if t.isBetween then t.IsComplete ∧ Terminated ts
    else (Item.read t ts).1.isTerminated = true ∧ Terminated (Item.read t ts).2 := by
  constructor
  · rintro (_ | ⟨ht, h⟩ | ⟨ht, hread, hi, h⟩)
    · rw [if_pos ht.between]
      exact ⟨ht, h⟩
    · rw [if_neg (by rw [ht]; exact Bool.false_ne_true), hread]
      exact ⟨hi, h⟩
  · intro h
    split at h
    · exact .between h.1 h.2
    · next ht => exact .item (Bool.eq_false_iff.2 ht) rfl h.1 h.2

/-- Whether a rule list ends in itself can be read off item by item. -/
def decideTerminated : (ts : List Token) → Decidable (Terminated ts)
  | [] => isTrue .nil
  | t :: ts =>
    have : Decidable (Terminated ts) := decideTerminated ts
    have : Decidable (Terminated (Item.read t ts).2) := decideTerminated (Item.read t ts).2
    if h : if t.isBetween then t.IsComplete ∧ Terminated ts
        else (Item.read t ts).1.isTerminated = true ∧ Terminated (Item.read t ts).2 then
      isTrue (terminated_cons_iff.2 h)
    else
      isFalse fun h' => h (terminated_cons_iff.1 h')
termination_by ts => ts.length
decreasing_by
  · exact Nat.lt_succ_self _
  · have hlength := congrArg List.length (Item.read_tokens t ts)
    have hpos := List.length_pos_iff.2 (Item.read_tokens_ne_nil t ts)
    rw [List.length_append] at hlength
    omega

instance (ts : List Token) : Decidable (Terminated ts) :=
  decideTerminated ts

/-- A comment without its closing mark would go on in what is written behind it. -/
example : Terminated (tokens "@import 'x'; .a\x7b\x7d /**/ <!--".toList) ∧
    ¬ Terminated (tokens ".a\x7b\x7d/*".toList) := by
  decide +kernel

/-! ## Items with their own ends -/

/-- A list that was cut at a token is cut there whatever stands behind the token. -/
theorem cut_replace {stop : Token → Bool} {pending : List Bracket} {ts taken left : List Token} {u : Token}
    (h : cut stop pending ts = (taken, u :: left)) (more : List Token) :
    cut stop pending (taken ++ u :: more) = (taken, u :: more) := by
  induction ts generalizing pending taken with
  | nil => cases h
  | cons t r ih =>
    rw [cut] at h
    split at h
    · next hs =>
      cases h
      rw [List.nil_append, cut, if_pos hs]
    · next hs =>
      rw [Prod.mk.injEq] at h
      obtain ⟨rfl, hl⟩ := h
      rw [List.cons_append, cut, if_neg hs, ih (Prod.ext rfl hl)]

theorem stop_of_cut {stop : Token → Bool} {pending : List Bracket} {ts taken left : List Token} {u : Token}
    (h : cut stop pending ts = (taken, u :: left)) : stop u = true := by
  induction ts generalizing pending taken with
  | nil => cases h
  | cons t r ih =>
    rw [cut] at h
    split at h
    · next hs =>
      cases h
      exact (Bool.and_eq_true _ _ ▸ hs).2
    · rw [Prod.mk.injEq] at h
      exact ih (Prod.ext rfl h.2)

/-- A block that is closed is read the same whatever stands behind it. -/
theorem Block.read_replace {o : Token} {ts rest : List Token} {b : Block} (h : Block.read o ts = (b, rest))
    (hc : b.closer.isSome = true) :
    ∃ u, u.closesBlock = true ∧ b.tokens = o :: b.body ++ [u] ∧
      ∀ more, Block.read o (b.body ++ u :: more) = (b, more) := by
  unfold Block.read at h
  cases hcut : cut Token.closesBlock [] ts with
  | mk body left =>
    rw [hcut] at h
    cases left with
    | nil => cases h; cases hc
    | cons u left =>
      cases h
      refine ⟨u, stop_of_cut hcut, rfl, fun more => ?_⟩
      unfold Block.read
      dsimp only
      rw [cut_replace hcut more]
      rfl

theorem isDelimiter_of_closesBlock {u : Token} (h : u.closesBlock = true) : u.kind.isDelimiter = true := by
  rw [beq_iff_eq.1 h]
  rfl

/-- An item that starts with a token ends in a delimiter, and is read whatever stands behind that. -/
def Item.EndsItself (t : Token) (item : Item) : Prop :=
  ∃ inner u, item.tokens = t :: (inner ++ [u]) ∧ u.kind.isDelimiter = true ∧
    ∀ more, Item.read t (inner ++ u :: more) = (item, more)

section EndsItself

variable {t : Token} {ts rest : List Token} {item : Item}

theorem endsItself_of_atRule (hk : t.kind = .atKeyword) (h : Item.read t ts = (item, rest))
    (hi : item.isTerminated = true) : item.EndsItself t := by
  unfold Item.read at h
  rw [if_pos hk] at h
  cases hcut : cut (fun u => u.kind == .semicolon || u.opensBlock) [] ts with
  | mk prelude left =>
    rw [hcut] at h
    cases left with
    | nil => cases h; cases hi
    | cons u left =>
      cases hb : Block.read u left with
      | mk b rest =>
        dsimp only at h
        rw [hb] at h
        split at h
        · next hu =>
          cases h
          obtain ⟨v, hv, htokens, hread⟩ := Block.read_replace hb hi
          refine ⟨prelude ++ u :: b.body, v, ?_, isDelimiter_of_closesBlock hv, fun more => ?_⟩
          · simp [Item.tokens, Ending.tokens, htokens]
          · unfold Item.read
            rw [if_pos hk, List.append_assoc, List.cons_append, cut_replace hcut]
            dsimp only
            rw [if_pos hu, hread]
        · next hu =>
          cases h
          have hsemicolon : u.kind = .semicolon := by
            have hstop := stop_of_cut hcut
            rw [Bool.or_eq_true] at hstop
            exact beq_iff_eq.1 (hstop.resolve_right hu)
          refine ⟨prelude, u, rfl, by rw [hsemicolon]; rfl, fun more => ?_⟩
          unfold Item.read
          rw [if_pos hk, cut_replace hcut]
          dsimp only
          rw [if_neg hu]

theorem endsItself_of_style (hk : t.kind ≠ .atKeyword) (h : Item.read t ts = (item, rest))
    (hi : item.isTerminated = true) : item.EndsItself t := by
  unfold Item.read at h
  rw [if_neg hk] at h
  cases hcut : cut Token.opensBlock [] (t :: ts) with
  | mk prelude left =>
    rw [hcut] at h
    cases left with
    | nil => cases h; cases hi
    | cons o left =>
      cases hb : Block.read o left with
      | mk b rest =>
        dsimp only at h
        rw [hb] at h
        cases h
        obtain ⟨v, hv, htokens, hread⟩ := Block.read_replace hb hi
        -- the item starts with its prelude, or with its block if that is empty
        obtain ⟨inner, hinner⟩ : ∃ inner, prelude ++ o :: b.body = t :: inner := by
          have hall := cut_append Token.opensBlock [] (t :: ts)
          rw [hcut] at hall
          cases prelude with
          | nil => exact ⟨b.body, by rw [(List.cons.inj hall).1]; rfl⟩
          | cons p prelude => exact ⟨prelude ++ o :: b.body, by rw [(List.cons.inj hall).1]; rfl⟩
        refine ⟨inner, v, ?_, isDelimiter_of_closesBlock hv, fun more => ?_⟩
        · rw [Item.tokens, htokens, ← List.append_assoc, hinner]
          rfl
        · have hmore : t :: (inner ++ v :: more) = prelude ++ o :: (b.body ++ v :: more) := by
            rw [← List.cons_append, ← hinner]
            simp
          unfold Item.read
          rw [if_neg hk, hmore, cut_replace hcut]
          dsimp only
          rw [hread]

/-- An item with its own end is read the same whatever stands behind it. -/
theorem endsItself_of_isTerminated (h : Item.read t ts = (item, rest)) (hi : item.isTerminated = true) :
    item.EndsItself t := by
  by_cases hk : t.kind = .atKeyword
  · exact endsItself_of_atRule hk h hi
  · exact endsItself_of_style hk h hi

end EndsItself

/-! ## Texts cut at a token -/

/-- The tokens behind some tokens of a text are those of the text behind these. -/
theorem tokens_textOf (first : List Token) {second : List Token} {cs : List Char}
    (h : tokens cs = first ++ second) :
    tokens (textOf second) = second := by
  induction first generalizing cs with
  | nil =>
    rw [List.nil_append] at h
    rw [← h]
    exact congrArg tokens (flatMap_text_tokens cs)
  | cons t first ih =>
    cases cs with
    | nil => rw [tokens] at h; cases h
    | cons c r =>
      rw [tokens_cons, List.cons_append, List.cons.injEq] at h
      exact ih h.2

/-- The token that a delimiter is has the delimiter for its text. -/
theorem eq_of_tokens_delimiter {cs : List Char} {u : Token} {rest : List Token} (h : tokens cs = u :: rest)
    (hu : u.kind.isDelimiter = true) : ∃ d, isDelimiter d = true ∧ u = ⟨delimiterKind d, [d]⟩ := by
  cases cs with
  | nil => rw [tokens] at h; cases h
  | cons c r =>
    have hd : isDelimiter c = true := by
      rw [tokens_cons, List.cons.injEq] at h
      refine delimitsAlone_lexeme c r ?_
      rw [← h.1] at hu
      exact hu
    rw [tokens_delimiter hd, List.cons.injEq] at h
    exact ⟨c, hd, h.1.symm⟩

/-- A text that is written behind another one does not change the tokens up to a delimiter. -/
theorem tokens_append_of_delimiter {a : List Char} {first rest : List Token} {u : Token}
    (h : tokens a = first ++ u :: rest) (hu : u.kind.isDelimiter = true) (b : List Char) :
    tokens (a ++ b) = first ++ u :: tokens (textOf rest ++ b) := by
  obtain ⟨d, hd, rfl⟩ := eq_of_tokens_delimiter (tokens_textOf first h) hu
  have ha : a = textOf first ++ d :: textOf rest := by
    rw [← flatMap_text_tokens a, h]
    simp [textOf]
  rw [ha] at h ⊢
  have hb := tokens_append (delimited_cons hd _) (List.cons_ne_nil _ _)
    (delimited_cons hd (textOf rest ++ b)) h
  rw [List.append_assoc, List.cons_append, hb, tokens_delimiter hd]

/-! ## What stands between items -/

@[simp] theorem scanList_nil (m : Mark) : scanList m [] = [] :=
  scanList_none m rfl

theorem next?_between {t : Token} (ht : t.isBetween = true) (ts : List Token) :
    Item.next? (t :: ts) = (Item.next? ts).map fun (gap, item, rest) => (t :: gap, item, rest) := by
  unfold Item.next?
  rw [List.dropWhile_cons_of_pos ht, List.takeWhile_cons_of_pos ht]
  split <;> rfl

/-- A scan passes over what stands between items. -/
theorem scanList_between {t : Token} (ht : t.isBetween = true) (m : Mark) (ts : List Token) :
    scanList m (t :: ts) = scanList (m.advance t.text) ts := by
  have hnext := next?_between ht ts
  cases h : Item.next? ts with
  | none =>
    rw [h] at hnext
    rw [scanList_none _ hnext, scanList_none _ h]
  | some found =>
    obtain ⟨gap, item, rest⟩ := found
    rw [h] at hnext
    rw [scanList_some _ hnext, scanList_some _ h]
    simp [textOf]

theorem tokens_gap {c : Char} (hc : isGap c = true) (r : List Char) :
    tokens (c :: r) = ⟨.gap, c :: r.takeWhile isGap⟩ :: tokens (r.dropWhile isGap) := by
  have hlexeme : lexeme (c :: r) = (.gap, (r.takeWhile isGap).length + 1) := by
    unfold lexeme
    dsimp only
    rw [if_pos hc, List.takeWhile_cons_of_pos hc, List.length_cons]
  have hdrop : r.drop (r.takeWhile isGap).length = r.dropWhile isGap := by
    conv_lhs => arg 2; rw [← List.takeWhile_append_dropWhile (p := isGap) (l := r)]
    exact List.drop_left
  rw [tokens_cons, hlexeme, Nat.add_sub_cancel, ← List.prefix_iff_eq_take.1 (List.takeWhile_prefix isGap), hdrop]

/-- A scan passes over white space, be it part of a longer gap or not. -/
theorem scanList_gap {gap : List Char} (hg : ∀ c ∈ gap, isGap c = true) (m : Mark) (x : List Char) :
    scanList m (tokens (gap ++ x)) = scanList (m.advance gap) (tokens x) := by
  have hwhole : ∀ (m : Mark) (x : List Char),
      scanList m (tokens x) = scanList (m.advance (x.takeWhile isGap)) (tokens (x.dropWhile isGap)) := by
    intro m x
    cases x with
    | nil => rfl
    | cons c r =>
      cases hc : isGap c with
      | true =>
        rw [tokens_gap hc, scanList_between rfl, List.takeWhile_cons_of_pos hc, List.dropWhile_cons_of_pos hc]
      | false =>
        have hc' : ¬ isGap c = true := by rw [hc]; exact Bool.false_ne_true
        rw [List.takeWhile_cons_of_neg hc', List.dropWhile_cons_of_neg hc']
        rfl
  rw [hwhole m (gap ++ x), hwhole _ x, List.takeWhile_append_of_pos hg, List.dropWhile_append_of_pos hg,
    Mark.advance_append]

/-- The kind and length of what starts with a character, if it may stand between items. -/
inductive StartsBetween (c : Char) (r : List Char) : Kind × Nat → Prop
  | gap : isGap c = true → StartsBetween c r (.gap, ((c :: r).takeWhile isGap).length)
  | comment {q : List Char} : c :: r = '/' :: '*' :: q → StartsBetween c r (.comment, commentLength q + 2)
  | opens {q : List Char} : c :: r = '<' :: '!' :: '-' :: '-' :: q → StartsBetween c r (.commentOpen, 4)
  | closes {q : List Char} : c :: r = '-' :: '-' :: '>' :: q → StartsBetween c r (.commentClose, 3)
  | other {l : Kind × Nat} : (∀ text, Token.isBetween ⟨l.1, text⟩ = false) → StartsBetween c r l

theorem startsBetween_lexeme (c : Char) (r : List Char) : StartsBetween c r (lexeme (c :: r)) := by
  have hstart := starts_lexeme c r
  generalize lexeme (c :: r) = l at hstart ⊢
  cases hstart with
  | gap hc => exact .gap hc
  | comment hq => exact .comment hq
  | opens hq => exact .opens hq
  | closes hq => exact .closes hq
  | @inner l hi =>
    refine .other fun text => ?_
    unfold Token.isBetween Token.isSpacing
    revert hi
    cases l.1 <;> simp [Kind.isInner]
  | _ => exact .other fun _ => rfl

theorem lexeme_comment (q : List Char) : lexeme ('/' :: '*' :: q) = (.comment, commentLength q + 2) := rfl

/-- The length of a comment does not change with what stands behind its closing mark. -/
theorem commentLength_take_append {q : List Char} (hq : ['*', '/'] <:+ q.take (commentLength q)) (x : List Char) :
    commentLength (q.take (commentLength q) ++ x) = (q.take (commentLength q)).length := by
  fun_induction commentLength q with
  | case1 => exact absurd (List.IsSuffix.length_le hq) (Nat.not_succ_le_zero _)
  | case2 r => rfl
  | case3 c r hne ih =>
    rw [List.take_succ_cons, List.suffix_cons_iff] at hq
    -- the closing mark does not start here, nor does it with something else behind the comment
    have hslash : ∀ {z : List Char}, r.take (commentLength r) = '/' :: z → c = '*' → False := by
      intro z hz hc
      refine hne (z ++ r.drop (commentLength r)) hc ?_
      rw [← List.cons_append, ← hz, List.take_append_drop]
    rcases hq with hq | hq
    · rw [List.cons.injEq] at hq
      exact (hslash hq.2.symm hq.1.symm).elim
    · have hlength := ih hq
      rw [List.take_succ_cons, List.cons_append, List.length_cons, ← hlength, commentLength]
      intro z hc hz
      cases ht : r.take (commentLength r) with
      | nil => rw [ht] at hq; exact absurd (List.IsSuffix.length_le hq) (Nat.not_succ_le_zero _)
      | cons d t =>
        rw [ht, List.cons_append, List.cons.injEq] at hz
        exact hslash (by rw [ht, hz.1]) hc

/-- A scan passes over what stands between items, whatever stands behind that. -/
theorem scanList_complete {a : List Char} {t : Token} {ts : List Token} (h : tokens a = t :: ts)
    (ht : t.IsComplete) (m : Mark) (x : List Char) :
    scanList m (tokens (t.text ++ x)) = scanList (m.advance t.text) (tokens x) := by
  cases a with
  | nil => rw [tokens] at h; cases h
  | cons c r =>
    rw [tokens_cons, List.cons.injEq] at h
    obtain ⟨rfl, -⟩ := h
    have hstart := startsBetween_lexeme c r
    generalize lexeme (c :: r) = l at hstart ht ⊢
    cases hstart with
    | gap hc =>
      refine scanList_gap (fun d hd => ?_) m x
      dsimp only at hd
      rw [List.takeWhile_cons_of_pos hc, List.length_cons, Nat.add_sub_cancel,
        ← List.prefix_iff_eq_take.1 (List.takeWhile_prefix isGap)] at hd
      rcases List.mem_cons.1 hd with rfl | hd
      · exact hc
      · exact List.all_eq_true.1 List.all_takeWhile d hd
    | comment hs =>
      obtain ⟨rfl, rfl⟩ := List.cons.inj hs
      rename_i q
      have hq : ['*', '/'] <:+ q.take (commentLength q) := ht.comment rfl
      have htokens : tokens ('/' :: '*' :: (q.take (commentLength q) ++ x)) =
          ⟨.comment, '/' :: '*' :: q.take (commentLength q)⟩ :: tokens x := by
        rw [tokens_cons, lexeme_comment, commentLength_take_append hq]
        simp
      exact (congrArg (scanList m) htokens).trans (scanList_between rfl m _)
    | opens hs =>
      have htokens : tokens ('<' :: '!' :: '-' :: '-' :: x) =
          ⟨.commentOpen, ['<', '!', '-', '-']⟩ :: tokens x := by
        rw [tokens_cons]
        rfl
      obtain ⟨rfl, rfl⟩ := List.cons.inj hs
      exact (congrArg (scanList m) htokens).trans (scanList_between rfl m _)
    | closes hs =>
      have htokens : tokens ('-' :: '-' :: '>' :: x) = ⟨.commentClose, ['-', '-', '>']⟩ :: tokens x := by
        rw [tokens_cons]
        rfl
      obtain ⟨rfl, rfl⟩ := List.cons.inj hs
      exact (congrArg (scanList m) htokens).trans (scanList_between rfl m _)
    | other hl => exact absurd ht.between (by rw [hl]; exact Bool.false_ne_true)

/-! ## Appending -/

theorem next?_item {t : Token} (ht : t.isBetween = false) {ts rest : List Token} {item : Item}
    (h : Item.read t ts = (item, rest)) : Item.next? (t :: ts) = some ([], item, rest) := by
  have ht' : ¬ t.isBetween = true := by rw [ht]; exact Bool.false_ne_true
  unfold Item.next?
  rw [List.dropWhile_cons_of_neg ht', List.takeWhile_cons_of_neg ht']
  dsimp only
  rw [h]

/-- What is written behind a stylesheet that ends in itself is scanned as from its start. -/
theorem scanList_terminated_append {a : List Char} {ts : List Token} (h : Terminated ts) (ha : tokens a = ts)
    (m : Mark) (b : List Char) :
    scanList m (tokens (a ++ b)) = scanList m ts ++ scanList (m.advance a) (tokens b) := by
  induction h generalizing a m with
  | nil =>
    cases a with
    | nil =>
      rw [scanList_nil]
      rfl
    | cons c r => rw [tokens_cons] at ha; cases ha
  | @between t ts ht _ ih =>
    have htext : a = t.text ++ textOf ts := by
      rw [← flatMap_text_tokens a, ha]
      rfl
    rw [htext, List.append_assoc, scanList_complete ha ht, scanList_between ht.between, Mark.advance_append]
    exact ih (tokens_textOf [t] ha) _
  | @item t ts rest item ht hread hi _ ih =>
    obtain ⟨inner, u, htokens, hu, hmore⟩ := endsItself_of_isTerminated hread hi
    have hsplit : tokens a = (t :: inner) ++ u :: rest := by
      have hall := Item.read_tokens t ts
      rw [hread, htokens] at hall
      rw [ha, ← hall]
      simp
    have htext : a = textOf [] ++ textOf item.tokens ++ textOf rest := by
      rw [← flatMap_text_tokens a, hsplit, htokens]
      simp [textOf]
    rw [tokens_append_of_delimiter hsplit hu, scanList_some m (next?_item ht hread), List.cons_append,
      scanList_some m (next?_item ht (hmore _)), List.append_assoc,
      ih (tokens_textOf (t :: inner ++ [u]) (by rw [hsplit]; simp)), ← Mark.advance_append,
      ← Mark.advance_append, ← htext]

/-- A scan of a stylesheet that ends in itself and of another one behind it finds what it finds in the first
and what it finds in the second, there at the places behind the first. -/
theorem scan_terminated_append {a b : String} (ha : Terminated (tokens a.toList))
    (hcut : ¬ (a.toList.getLast? = some '\r' ∧ b.toList.head? = some '\n')) :
    scan (a ++ b) = scan a ++ (scan b).map (Finding.shifted a.toList) := by
  have hb : textOf (tokens b.toList) = b.toList := flatMap_text_tokens b.toList
  unfold scan
  rw [String.toList_append, scanList_terminated_append ha rfl,
    scanList_shifted (shifted_start (by rwa [hb]))]

end ClassAtlas.Stylesheet
