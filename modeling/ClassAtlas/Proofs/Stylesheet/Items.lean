/-
The items of a forest. Cut into items, the tokens of a forest give what its components say: an
at-rule and a style rule end where the list of components has its first semicolon or block
(`read_statement`, `read_block`, `read_style` and their like), and the selectors of a prelude are
the parts between its commas (`selectorsOf_tokensOf`).
-/
import ClassAtlas.Proofs.Stylesheet.RuleTree

namespace ClassAtlas.Stylesheet

/-! ## Items of a forest -/

theorem opens?_of_isBetween {t : Token} (h : t.isBetween = true) : t.opens? = none := by
  unfold Token.isBetween Token.isSpacing at h
  unfold Token.opens?
  cases hk : t.kind <;> simp_all

theorem opens?_of_atKeyword {t : Token} (h : t.kind = .atKeyword) : t.opens? = none := by
  rw [Token.opens?, h]

theorem opensBlock_eq_false {t : Token} (h : t.opens? = none) : t.opensBlock = false := by
  unfold Token.opens? at h
  unfold Token.opensBlock
  cases hk : t.kind <;> simp_all

section Leaves

variable {p : Token → Bool} {F : List Component}

/-- Tokens that open nothing are taken off components as they are taken off tokens. -/
theorem takeWhile_tokensOf (hp : ∀ t, p t = true → t.opens? = none)
    (hF : ∀ c ∈ F, c.head.opens? = none → c = .leaf c.head) :
    (tokensOf F).takeWhile p = tokensOf (F.takeWhile fun c => p c.head) := by
  induction F with
  | nil => simp
  | cons c r ih =>
    rw [List.forall_mem_cons] at hF
    cases hb : p c.head with
    | true =>
      rw [hF.1 (hp _ hb), tokensOf_leaf, List.takeWhile_cons_of_pos hb, List.takeWhile_cons_of_pos (by exact hb),
        tokensOf_leaf, ih hF.2]
    | false =>
      obtain ⟨ts, hts⟩ := tokensOf_cons c r
      rw [hts, List.takeWhile_cons_of_neg (by simp [hb]), List.takeWhile_cons_of_neg (by simp [hb]), tokensOf_nil]

theorem dropWhile_tokensOf (hp : ∀ t, p t = true → t.opens? = none)
    (hF : ∀ c ∈ F, c.head.opens? = none → c = .leaf c.head) :
    (tokensOf F).dropWhile p = tokensOf (F.dropWhile fun c => p c.head) := by
  have h := congrArg tokensOf (List.takeWhile_append_dropWhile (p := fun c => p c.head) (l := F))
  rw [tokensOf_append, ← takeWhile_tokensOf hp hF] at h
  exact List.append_cancel_left ((List.takeWhile_append_dropWhile (p := p) (l := tokensOf F)).trans h.symm)

end Leaves

section Items

variable {within : Option Bracket} {ended : Bool} {F gap : List Component}

theorem takeWhile_dropWhile_isBetween (h : Forest within ended F) {left : List Component}
    (hs : F.span (fun c => c.head.isBetween) = (gap, left)) :
    (tokensOf F).takeWhile Token.isBetween = tokensOf gap ∧ (tokensOf F).dropWhile Token.isBetween = tokensOf left := by
  rw [List.span_eq_takeWhile_dropWhile, Prod.mk.injEq] at hs
  obtain ⟨rfl, rfl⟩ := hs
  exact ⟨takeWhile_tokensOf (fun _ => opens?_of_isBetween) h.eq_leaf_of_mem,
    dropWhile_tokensOf (fun _ => opens?_of_isBetween) h.eq_leaf_of_mem⟩

/-- A forest with nothing but a gap has no item. -/
theorem next?_nil (h : Forest within ended F) (hs : F.span (fun c => c.head.isBetween) = (gap, [])) :
    Item.next? (tokensOf F) = none := by
  unfold Item.next?
  rw [(takeWhile_dropWhile_isBetween h hs).2, tokensOf_nil]

/-- The first item starts at the first component that is not between items. -/
theorem next?_cons (h : Forest within ended F) {c : Component} {rest : List Component}
    (hs : F.span (fun c => c.head.isBetween) = (gap, c :: rest)) {ts : List Token}
    (ht : tokensOf (c :: rest) = c.head :: ts) :
    Item.next? (tokensOf F) = some (tokensOf gap, Item.read c.head ts) := by
  unfold Item.next?
  rw [(takeWhile_dropWhile_isBetween h hs).2, (takeWhile_dropWhile_isBetween h hs).1, ht]

end Items

section Read

variable {within : Option Bracket} {ended : Bool} {c : Component} {rest prelude more : List Component}

theorem Forest.tokensOf_cons_leaf (h : Forest within ended (c :: rest)) (hc : c.head.opens? = none)
    (more : List Component) : tokensOf (c :: more) = c.head :: tokensOf more := by
  have hl := h.eq_leaf hc
  generalize c.head = t at hl
  rw [hl]
  exact tokensOf_leaf t more

/-- An at-rule that the list ends. -/
theorem read_statement_end (h : Forest within ended rest) {t : Token} (hk : t.kind = .atKeyword)
    (hs : rest.span (fun d => !d.endsAtRule) = (prelude, [])) :
    Item.read t (tokensOf rest) = (.atRule t (tokensOf prelude) .listEnd, []) := by
  unfold Item.read
  rw [if_pos hk, cut_tokensOf h hs, tokensOf_nil]

/-- An at-rule that a semicolon ends. -/
theorem read_statement (h : Forest within ended rest) {t u : Token} (hk : t.kind = .atKeyword)
    (hs : rest.span (fun d => !d.endsAtRule) = (prelude, .leaf u :: more)) :
    Item.read t (tokensOf rest) = (.atRule t (tokensOf prelude) (.semicolon u), tokensOf more) := by
  obtain ⟨e, hm⟩ := (h.of_span_eq hs).2
  have hu : u.opensBlock = false := by
    cases hm with
    | leaf ho _ _ => exact opensBlock_eq_false ho
  unfold Item.read
  rw [if_pos hk, cut_tokensOf h hs, tokensOf_leaf]
  simp [hu]

section Group

variable {o : Token} {inside : List Component} {closer : Option Token}

/-- An at-rule that a block ends. -/
theorem read_block (h : Forest within ended rest) {t : Token} (hk : t.kind = .atKeyword)
    (hs : rest.span (fun d => !d.endsAtRule) = (prelude, .group o inside closer :: more)) :
    Item.read t (tokensOf rest) =
      (.atRule t (tokensOf prelude) (.block ⟨o, tokensOf inside, closer⟩), tokensOf more) := by
  obtain ⟨e, hm⟩ := (h.of_span_eq hs).2
  have ho : o.opensBlock = true := by
    obtain ⟨b, -, hb, -⟩ := hm.of_group
    have hend := of_span_eq_cons hs
    unfold Component.endsAtRule Component.head at hend
    rw [Bool.not_eq_false', Bool.or_eq_true] at hend
    refine hend.resolve_left fun hsemi => ?_
    rw [Token.opens?, beq_iff_eq.1 hsemi] at hb
    cases hb
  unfold Item.read
  rw [if_pos hk, cut_tokensOf h hs, tokensOf_group]
  dsimp only
  rw [if_pos ho, Block.read_tokensOf hm ho]

/-- A style rule. -/
theorem read_style (h : Forest within ended (c :: rest)) {ts : List Token}
    (ht : tokensOf (c :: rest) = c.head :: ts) (hk : c.head.kind ≠ .atKeyword)
    (hs : (c :: rest).span (fun d => !d.head.opensBlock) = (prelude, .group o inside closer :: more)) :
    Item.read c.head ts = (.style (tokensOf prelude) ⟨o, tokensOf inside, closer⟩, tokensOf more) := by
  obtain ⟨e, hm⟩ := (h.of_span_eq hs).2
  have ho : o.opensBlock = true := by
    have hopen := of_span_eq_cons hs
    rwa [Bool.not_eq_false'] at hopen
  unfold Item.read
  rw [if_neg hk, ← ht, cut_tokensOf h hs, tokensOf_group]
  dsimp only
  rw [Block.read_tokensOf hm ho]

end Group

/-- Where no block starts, nothing is left behind what has no block. -/
theorem Forest.eq_nil_of_span {F : List Component} (h : Forest within ended F)
    (hs : F.span (fun d => !d.head.opensBlock) = (prelude, more))
    (hn : ∀ o inside closer r, more ≠ .group o inside closer :: r) : more = [] := by
  cases more with
  | nil => rfl
  | cons d r =>
    obtain ⟨e, hm⟩ := (h.of_span_eq hs).2
    have hopen : d.head.opensBlock = true := by simpa using of_span_eq_cons hs
    cases hm with
    | leaf ho _ _ => exact absurd hopen (by rw [Component.head, opensBlock_eq_false ho]; nofun)
    | closed _ _ _ _ => exact absurd rfl (hn _ _ _ _)
    | unclosed _ _ => exact absurd rfl (hn _ _ _ _)

/-- A last piece without a block. -/
theorem read_unfinished (h : Forest within ended (c :: rest)) {ts : List Token}
    (ht : tokensOf (c :: rest) = c.head :: ts) (hk : c.head.kind ≠ .atKeyword)
    (hs : (c :: rest).span (fun d => !d.head.opensBlock) = (prelude, more))
    (hn : ∀ o inside closer r, more ≠ .group o inside closer :: r) :
    Item.read c.head ts = (.unfinished (tokensOf prelude), []) := by
  obtain rfl := h.eq_nil_of_span hs hn
  unfold Item.read
  rw [if_neg hk, ← ht, cut_tokensOf h hs, tokensOf_nil]

end Read

/-! ## Selectors of a forest -/

/-- Parts between commas are cut one after the other. -/
theorem commaParts_eq_cut (pending : List Bracket) (ts : List Token) :
    commaParts pending ts = (cut (fun t => t.kind == .comma) pending ts).1 ::
      match (cut (fun t => t.kind == .comma) pending ts).2 with
      | [] => []
      | _ :: r => commaParts [] r := by
  induction ts generalizing pending with
  | nil => rfl
  | cons t r ih =>
    rw [commaParts, cut]
    split
    · next hp =>
      rw [Bool.and_eq_true, List.isEmpty_iff] at hp
      rw [hp.1]
    · rw [ih]

/-- The parts of a forest between its commas. -/
theorem commaParts_tokensOf {within : Option Bracket} {ended : Bool} {F : List Component}
    (h : Forest within ended F) :
    commaParts [] (tokensOf F) = (F.splitOnP fun c => c.head.kind == .comma).map tokensOf := by
  induction F generalizing ended with
  | nil => simp [commaParts]
  | cons c r ih =>
    obtain ⟨e, hr⟩ := h.tail
    rw [List.splitOnP_cons_eq_if_modifyHead]
    cases hc : c.head.kind == .comma with
    | true =>
      have ho : c.head.opens? = none := by rw [Token.opens?, beq_iff_eq.1 hc]
      rw [if_pos rfl, h.eq_leaf ho, tokensOf_leaf, List.map_cons, tokensOf_nil, ← ih hr, commaParts,
        if_pos (by rw [hc]; rfl)]
    | false =>
      rw [if_neg Bool.false_ne_true, commaParts_eq_cut, cut_cons h hc]
      have hrec := ih hr
      rw [commaParts_eq_cut] at hrec
      cases hs : r.splitOnP fun c => c.head.kind == .comma with
      | nil => exact absurd hs (List.splitOnP_ne_nil _ _)
      | cons part parts =>
        rw [hs, List.map_cons, List.cons.injEq] at hrec
        rw [List.modifyHead_cons, List.map_cons, tokensOf, ← hrec.1, ← hrec.2]

theorem mem_of_mem_splitOnP {α : Type} {p : α → Bool} {l part : List α} (hpart : part ∈ l.splitOnP p) {a : α}
    (ha : a ∈ part) : a ∈ l := by
  induction l generalizing part with
  | nil => rw [List.splitOnP_nil, List.mem_singleton] at hpart; rw [hpart] at ha; cases ha
  | cons b r ih =>
    rw [List.splitOnP_cons_eq_if_modifyHead] at hpart
    split at hpart
    · rcases List.mem_cons.1 hpart with rfl | hpart
      · cases ha
      · exact List.mem_cons_of_mem _ (ih hpart ha)
    · cases hs : r.splitOnP p with
      | nil => exact absurd hs (List.splitOnP_ne_nil _ _)
      | cons first parts =>
        rw [hs, List.modifyHead_cons] at hpart
        rw [hs] at ih
        rcases List.mem_cons.1 hpart with rfl | hpart
        · rcases List.mem_cons.1 ha with rfl | ha
          · exact List.mem_cons_self
          · exact List.mem_cons_of_mem _ (ih List.mem_cons_self ha)
        · exact List.mem_cons_of_mem _ (ih (List.mem_cons_of_mem _ hpart) ha)

/-- The selectors of a prelude are those of its components. -/
theorem selectorsOf_tokensOf {within : Option Bracket} {ended : Bool} {s : StyleNode}
    (h : Forest within ended s.prelude) : selectorsOf (tokensOf s.prelude) = s.selectors := by
  unfold selectorsOf StyleNode.selectors
  rw [commaParts_tokensOf h, List.map_map]
  refine List.map_congr_left fun part hpart => ?_
  have hd : (tokensOf part).dropWhile Token.isSpacing = tokensOf (part.dropWhile fun c => c.head.isSpacing) :=
    dropWhile_tokensOf (fun t ht => opens?_of_isBetween (by simp [Token.isBetween, ht]))
      (fun c hc => h.eq_leaf_of_mem c (mem_of_mem_splitOnP hpart hc))
  rw [Function.comp_apply, selectorOf, hd]
  rfl

end ClassAtlas.Stylesheet
