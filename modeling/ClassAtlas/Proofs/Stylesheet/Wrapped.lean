/-
Rule lists in the blocks of at-rules. A self-contained text is read in a block as it is read alone. So an
at-rule around it, or any number of them, gives the rules of the text at their places behind all that stands
in front, if each of the at-rules is one whose block holds rules; and it gives nothing if one of them is not
(`scan_wrapIn`).
-/
import ClassAtlas.Proofs.Stylesheet.Contained
import ClassAtlas.Proofs.Stylesheet.Items

namespace ClassAtlas.Stylesheet

open Token

/-! ## At-rules around a text -/

/-- An at-rule to be put around a text: the name behind its `@`, and what it has before its block. -/
structure Layer where
  name : List Char
  prelude : List Char

namespace Layer

/-- All that stands in front of what the block of an at-rule holds. -/
def opening (l : Layer) : List Char :=
  '@' :: (l.name ++ (l.prelude ++ ['\x7b']))

/-- A prelude that is empty or starts with white space, that has no semicolon and no curly bracket, and that
leaves nothing open. -/
structure HasPrelude (l : Layer) : Prop where
  apart : ∀ c ∈ l.prelude.head?, isGap c = true
  plain : ∀ c ∈ l.prelude, isDelimiter c = false
  contained : SelfContained l.prelude

/-- The name is that of an at-rule whose block holds rules, in any ASCII letter case. -/
def IsGrouping (l : Layer) : Prop :=
  ∃ name ∈ groupingNames, l.name.map Char.toLower = name.toList

/-- The at-keyword that the text of a layer starts with has the name of the layer, and perhaps, if this ends
in an escape with digits, the white space behind it, which is part of such an escape. -/
def ReadsKeyword (l : Layer) (space : List Char) : Prop :=
  (space = [] ∨ space = l.prelude.take (gapLength l.prelude)) ∧
    (tokens l.opening).head? = some ⟨.atKeyword, '@' :: (l.name ++ space)⟩

/-- The name is that of an at-keyword, and not that of an at-rule whose block holds rules. -/
def IsOther (l : Layer) : Prop :=
  ∃ space, l.ReadsKeyword space ∧
    ∀ name ∈ groupingNames, (unescape 0 (l.name ++ space)).map Char.toLower ≠ name.toList

/-- An at-rule around what its block holds. -/
def wrap (l : Layer) (inner : List Char) : List Char :=
  l.opening ++ (inner ++ ['\x7d'])

/-- What is read of the text of a layer, whatever stands in its block: an at-keyword, the components of a
prelude, among them no semicolon and no block, and the token that opens the block. -/
structure Opens (l : Layer) (t : Token) (F : List Component) : Prop where
  keyword : t.kind = .atKeyword
  forest : Forest (some .curly) true F
  plain : ∀ c ∈ F, c.endsAtRule = false
  reads : ∀ inner, tokens (l.opening ++ inner) = t :: (tokensOf F ++ .blockStart :: tokens inner)

end Layer

/-! ## Reading the text of a layer -/

theorem isGap_of_mem_take {cs : List Char} : ∀ c ∈ cs.take (gapLength cs), isGap c = true := by
  intro c hc
  unfold gapLength at hc
  split at hc
  · rcases List.mem_cons.1 hc with rfl | hc
    · rfl
    · rw [List.take_succ_cons, List.take_zero, List.mem_singleton] at hc
      rw [hc]
      rfl
  · split at hc
    · next hgap =>
      rw [List.take_succ_cons, List.take_zero, List.mem_singleton] at hc
      rw [hc]
      exact hgap
    · cases hc
  · cases hc

/-- A text without delimiters has no token that is one. -/
theorem exists_delimiter_of_mem {cs : List Char} {t : Token} (ht : t ∈ tokens cs)
    (hk : t.kind.isDelimiter = true) : ∃ c ∈ cs, isDelimiter c = true := by
  fun_induction tokens cs with
  | case1 => cases ht
  | case2 c r kind n hl ih =>
    rcases List.mem_cons.1 ht with rfl | ht
    · have h := delimitsAlone_lexeme c r
      rw [hl] at h
      exact ⟨c, List.mem_cons_self, h hk⟩
    · obtain ⟨d, hd, hdelimiter⟩ := ih ht
      exact ⟨d, List.mem_cons_of_mem _ (List.mem_of_mem_drop hd), hdelimiter⟩

theorem head_mem_tokensOf {c : Component} {F : List Component} (h : c ∈ F) : c.head ∈ tokensOf F := by
  induction F with
  | nil => cases h
  | cons d r ih =>
    rcases List.mem_cons.1 h with rfl | h
    · obtain ⟨ts, hts⟩ := tokensOf_cons c r
      rw [hts]
      exact List.mem_cons_self
    · rw [tokensOf]
      exact List.mem_append_right _ (ih h)

theorem isDelimiter_of_endsAtRule {c : Component} (h : c.endsAtRule = true) : c.head.kind.isDelimiter = true := by
  unfold Component.endsAtRule Token.opensBlock at h
  rcases Bool.or_eq_true _ _ ▸ h with h | h <;> rw [beq_iff_eq.1 h] <;> rfl

namespace Layer

variable {l : Layer} {space : List Char}

/-- An at-keyword that is read in front of its block is read there whatever the block holds, and so is the
prelude. -/
theorem opens_of_readsKeyword (hp : l.HasPrelude) (hk : l.ReadsKeyword space) :
    ∃ F, l.Opens ⟨.atKeyword, '@' :: (l.name ++ space)⟩ F := by
  obtain ⟨hspace, hhead⟩ := hk
  obtain ⟨rest, hprelude, hrest⟩ : ∃ rest, l.prelude = space ++ rest ∧ SelfContained rest := by
    rcases hspace with rfl | rfl
    · exact ⟨l.prelude, rfl, hp.contained⟩
    · have hsplit := (List.take_append_drop (gapLength l.prelude) l.prelude).symm
      exact ⟨_, hsplit, .of_gap_append isGap_of_mem_take (hsplit ▸ hp.contained)⟩
  have hopening : ∀ inner, l.opening ++ inner = '@' :: (l.name ++ space) ++ (rest ++ '\x7b' :: inner) := by
    intro inner
    simp [opening, hprelude]
  obtain ⟨F, hforest, htokens⟩ := hrest.closed
  refine ⟨F, rfl, hforest, fun c hc => ?_, fun inner => ?_⟩
  · refine Bool.eq_false_iff.2 fun hends => ?_
    have hmem := head_mem_tokensOf hc
    rw [htokens] at hmem
    obtain ⟨d, hd, hdelimiter⟩ := exists_delimiter_of_mem hmem (isDelimiter_of_endsAtRule hends)
    rw [hp.plain d (by rw [hprelude]; exact List.mem_append_right _ hd)] at hdelimiter
    cases hdelimiter
  · obtain ⟨ts, hts⟩ := List.head?_eq_some_iff.1 hhead
    have hnil := hopening []
    rw [List.append_nil] at hnil
    rw [hnil] at hts
    have hjoin := tokens_cons_append (t := ⟨.atKeyword, '@' :: (l.name ++ space)⟩)
      (delimited_cons (d := '\x7b') rfl []) (List.cons_ne_nil _ _) (delimited_cons (d := '\x7b') rfl inner) hts
    rw [hopening, hjoin.1, hrest.complete.tokens_append (delimited_cons rfl inner), tokens_delimiter rfl, htokens]
    rfl

/-! ## Names of at-rules -/

/-- A character that is not a letter is the same in lower case. -/
theorem isAlpha_or_toLower_eq (c : Char) : c.isAlpha = true ∨ c.toLower = c := by
  by_cases hc : c.isUpper = true
  · exact .inl (Bool.or_eq_true_iff.2 (.inl hc))
  · exact .inr (dif_neg fun hupper => hc (decide_eq_true hupper))

/-- What a character of a name is not if it stands for itself. -/
def isPlain (c : Char) : Bool :=
  isNameChar c && c != '\\' && c != '\x00'

theorem isPlain_of_isAlpha {c : Char} (h : c.isAlpha = true) : isPlain c = true := by
  have hchar : isNameChar c = true := by simp [isNameChar, isNameStart, h]
  have hslash : c ≠ '\\' := by rintro rfl; cases h
  have hnul : c ≠ '\x00' := by rintro rfl; cases h
  simp [isPlain, hchar, hslash, hnul]

theorem isPlain_of_toLower {c : Char} (h : isPlain c.toLower = true) : isPlain c = true := by
  rcases isAlpha_or_toLower_eq c with hc | hc
  · exact isPlain_of_isAlpha hc
  · rwa [hc] at h

theorem startsName_cons {c : Char} (hc : c ≠ '-') (hslash : c ≠ '\\') (r : List Char) :
    startsName (c :: r) = isNameStart c := by
  cases r <;> simp [startsName, hc]

theorem startsName_of_toLower {name : List Char} (h : startsName (name.map Char.toLower) = true)
    (hplain : ∀ c ∈ name, isPlain c = true) (rest : List Char) : startsName (name ++ rest) = true := by
  have hletter : ∀ {c : Char}, c.isAlpha = true → isNameStart c = true := fun hc => by simp [isNameStart, hc]
  cases name with
  | nil => cases h
  | cons c r =>
    by_cases hc : c = '-'
    · subst hc
      cases r with
      | nil => cases h
      | cons d r =>
        have hstart : startsName ('-' :: d :: (r ++ rest)) = (isNameStart d || d == '-' || d == '\\') := rfl
        rw [List.cons_append, List.cons_append, hstart]
        rcases isAlpha_or_toLower_eq d with hd | hd
        · rw [hletter hd]
          rfl
        · rw [List.map_cons, List.map_cons, hd] at h
          exact h
    · have hslash : c ≠ '\\' := by
        rintro rfl
        cases hplain _ List.mem_cons_self
      rw [List.cons_append, startsName_cons hc hslash]
      rcases isAlpha_or_toLower_eq c with hletter' | hsame
      · exact hletter hletter'
      · rwa [List.map_cons, hsame, startsName_cons hc hslash] at h

theorem nameLength_append_of_plain {name rest : List Char} (hname : ∀ c ∈ name, isPlain c = true)
    (hrest : ∀ c ∈ rest.head?, isNameChar c = false ∧ c ≠ '\\') :
    nameLength 0 (name ++ rest) = name.length := by
  induction name with
  | nil =>
    cases rest with
    | nil => rfl
    | cons c r => simp [nameLength, hrest c rfl]
  | cons c name ih =>
    rw [List.forall_mem_cons] at hname
    have hc := hname.1
    simp only [isPlain, Bool.and_eq_true, bne_iff_ne] at hc
    simp [nameLength, hc, ih hname.2]

theorem not_isNameChar_of_isGap {c : Char} (h : isGap c = true) : isNameChar c = false ∧ c ≠ '\\' := by
  simp only [isGap, isNewline, Bool.or_eq_true, beq_iff_eq] at h
  rcases h with (rfl | rfl) | (rfl | rfl) | rfl <;> decide

theorem unescape_of_plain {name : List Char} (hname : ∀ c ∈ name, isPlain c = true) :
    unescape 0 name = name := by
  induction name with
  | nil => rfl
  | cons c name ih =>
    rw [List.forall_mem_cons] at hname
    have hc := hname.1
    simp only [isPlain, Bool.and_eq_true, bne_iff_ne] at hc
    simp [unescape, hc, ih hname.2]

/-- Behind `@` a name is read as an at-keyword. -/
theorem lexeme_atKeyword {r : List Char} (h : startsName r = true) :
    lexeme ('@' :: r) = (.atKeyword, nameLength 0 r + 1) := by
  have hnumber : startsNumber ('@' :: r) = false := rfl
  have hname : startsName ('@' :: r) = false := startsName_cons (by decide) (by decide) r
  unfold lexeme
  simp [hnumber, hname, h, isGap, isNewline]

/-- A name without escapes is read as the at-keyword, whatever it names. -/
theorem readsKeyword_of_isPlain (hp : l.HasPrelude) (hstarts : ∀ rest, startsName (l.name ++ rest) = true)
    (hplain : ∀ c ∈ l.name, isPlain c = true) : l.ReadsKeyword [] := by
  refine ⟨.inl rfl, ?_⟩
  have hrest : ∀ c ∈ (l.prelude ++ ['\x7b']).head?, isNameChar c = false ∧ c ≠ '\\' := by
    intro c hc
    cases hprelude : l.prelude with
    | nil =>
      rw [hprelude] at hc
      cases hc
      decide
    | cons d r =>
      rw [hprelude] at hc
      cases hc
      exact not_isNameChar_of_isGap (hp.apart c (by rw [hprelude]; rfl))
  unfold opening
  rw [tokens_cons, lexeme_atKeyword (hstarts _), nameLength_append_of_plain hplain hrest]
  simp

/-- The names of at-rules whose blocks hold rules have no escapes, in any ASCII letter case. -/
theorem IsGrouping.plain (h : l.IsGrouping) :
    (∀ rest, startsName (l.name ++ rest) = true) ∧ ∀ c ∈ l.name, isPlain c = true := by
  obtain ⟨name, hmem, hname⟩ := h
  have hall : (groupingNames.all fun name => startsName name.toList && name.toList.all isPlain) = true := by
    decide +kernel
  have hplain := List.all_eq_true.1 hall name hmem
  rw [Bool.and_eq_true, List.all_eq_true, ← hname, List.forall_mem_map] at hplain
  obtain ⟨hstarts, hplain⟩ := hplain
  have hplain : ∀ c ∈ l.name, isPlain c = true := fun c hc => isPlain_of_toLower (hplain c hc)
  exact ⟨startsName_of_toLower hstarts hplain, hplain⟩

theorem IsGrouping.opens (h : l.IsGrouping) (hp : l.HasPrelude) :
    ∃ t F, l.Opens t F ∧ t.isGrouping = true := by
  obtain ⟨hstarts, hplain⟩ := h.plain
  obtain ⟨F, hopens⟩ := opens_of_readsKeyword hp (readsKeyword_of_isPlain hp hstarts hplain)
  obtain ⟨name, hmem, hname⟩ := h
  refine ⟨_, F, hopens, List.any_eq_true.2 ⟨name, hmem, ?_⟩⟩
  rw [List.append_nil]
  exact beq_iff_eq.2 (by rw [List.drop_one, List.tail_cons, unescape_of_plain hplain, hname])

theorem IsOther.opens (h : l.IsOther) (hp : l.HasPrelude) : ∃ t F, l.Opens t F ∧ t.isGrouping = false := by
  obtain ⟨space, hreads, hother⟩ := h
  obtain ⟨F, hopens⟩ := opens_of_readsKeyword hp hreads
  refine ⟨_, F, hopens, List.any_eq_false.2 fun name hmem hname => ?_⟩
  exact hother name hmem (beq_iff_eq.1 hname)

end Layer

/-! ## Scanning what is wrapped -/

theorem Forest.append {within : Option Bracket} {ended : Bool} {a b : List Component} (ha : Forest within ended a)
    (hended : ended = true) (hb : Forest within true b) : Forest within true (a ++ b) := by
  induction a generalizing ended with
  | nil => exact hb
  | cons c r ih =>
    subst hended
    cases ha with
    | leaf ho hc hr => exact .leaf ho hc (ih hr rfl)
    | closed ho hi hu hr => exact .closed ho hi hu (ih hr rfl)

section Wrap

variable {l : Layer} {t : Token} {F : List Component} {inner : List Char}

theorem Layer.Opens.tokens_wrap (h : l.Opens t F) (hi : SelfContained inner) (after : List Char) :
    tokens (l.wrap inner ++ after) =
      t :: (tokensOf F ++ .blockStart :: (tokens inner ++ .blockEnd :: tokens after)) := by
  have hclose : tokens (inner ++ '\x7d' :: after) = tokens inner ++ .blockEnd :: tokens after := by
    rw [hi.complete.tokens_append (delimited_cons rfl after), tokens_delimiter rfl]
    rfl
  rw [← hclose, ← h.reads]
  simp [Layer.wrap]

/-- An at-rule around a text is read as its keyword, and as the components of its prelude and its block. -/
theorem Layer.Opens.exists_block (h : l.Opens t F) (hi : SelfContained inner) :
    ∃ G, tokensOf G = tokens inner ∧
      Forest (some .curly) true (F ++ [Component.group .blockStart G (some .blockEnd)]) ∧
      tokens (l.wrap inner) = t :: tokensOf (F ++ [Component.group .blockStart G (some .blockEnd)]) := by
  obtain ⟨G, hG, hinner⟩ := hi.closed
  refine ⟨G, hinner, h.forest.append rfl (.closed rfl hG rfl (.nil _)), ?_⟩
  have htokens := h.tokens_wrap hi []
  rw [List.append_nil, tokens, ← hinner] at htokens
  rw [htokens, tokensOf_append, tokensOf_group]
  simp

/-- A text with an at-rule around it leaves nothing open. -/
theorem Layer.Opens.selfContained_wrap (h : l.Opens t F) (hi : SelfContained inner) :
    SelfContained (l.wrap inner) where
  complete := by
    have hlast : t :: (tokensOf F ++ Token.blockStart :: (tokens inner ++ [Token.blockEnd, Token.blockEnd])) =
        t :: (tokensOf F ++ Token.blockStart :: (tokens inner ++ [Token.blockEnd])) ++ [Token.blockEnd] := by
      simp
    have hend : tokens ['\x7d'] = [.blockEnd] := by
      rw [tokens_delimiter rfl, tokens]
      rfl
    unfold LeavesNoneOpen
    rw [h.tokens_wrap hi, hend, hlast, List.getLast?_concat]
  closed := by
    obtain ⟨G, -, hforest, htokens⟩ := h.exists_block hi
    refine ⟨_, .leaf (opens?_of_atKeyword h.keyword) (fun b _ => ?_) hforest, by rw [tokensOf_leaf, htokens]⟩
    rw [Token.closes, h.keyword]
    rfl

/-- A scan of an at-rule around a text is a scan of the text, from the mark behind all that is in front of it,
if the block of the at-rule holds rules, and finds nothing otherwise. -/
theorem Layer.Opens.scanList_wrap (h : l.Opens t F) (hi : SelfContained inner) (m : Mark) :
    scanList m (tokens (l.wrap inner)) =
      if t.isGrouping then scanList (m.advance l.opening) (tokens inner) else [] := by
  obtain ⟨G, hinner, hforest, htokens⟩ := h.exists_block hi
  have hspan : (F ++ [Component.group .blockStart G (some .blockEnd)]).span (fun c => !c.endsAtRule) =
      (F, [Component.group .blockStart G (some .blockEnd)]) := by
    have hplain : ∀ c ∈ F, (!c.endsAtRule) = true := fun c hc => by rw [h.plain c hc]; rfl
    rw [List.span_eq_takeWhile_dropWhile, List.takeWhile_append_of_pos hplain,
      List.dropWhile_append_of_pos hplain]
    simp [Component.endsAtRule, Component.head, Token.opensBlock, Token.blockStart]
  have hbetween : t.isBetween = false := by
    unfold Token.isBetween Token.isSpacing
    rw [h.keyword]
    rfl
  have hopening : textOf (t :: tokensOf F ++ [Token.blockStart]) = l.opening := by
    have hreads := h.reads []
    rw [List.append_nil, tokens] at hreads
    rw [List.cons_append, ← hreads, textOf_tokens]
  rw [htokens, scanList_some m (next?_item hbetween (read_block hforest h.keyword hspan)), Item.findings, hopening,
    hinner, tokensOf_nil, scanList_nil, List.append_nil]
  rfl

end Wrap

/-! ## Layer after layer -/

/-- At-rules around a text, the first one outermost. -/
def wrapIn (layers : List Layer) (inner : List Char) : List Char :=
  layers.foldr Layer.wrap inner

/-- All that the at-rules have in front of the text. -/
def openings (layers : List Layer) : List Char :=
  layers.flatMap Layer.opening

section Layers

variable {layers : List Layer} {body : List Char}

theorem exists_opens {l : Layer} (hp : l.HasPrelude) (h : l.IsGrouping ∨ l.IsOther) : ∃ t F, l.Opens t F := by
  rcases h with h | h
  · obtain ⟨t, F, hopens, -⟩ := h.opens hp
    exact ⟨t, F, hopens⟩
  · obtain ⟨t, F, hopens, -⟩ := h.opens hp
    exact ⟨t, F, hopens⟩

theorem selfContained_wrapIn (hbody : SelfContained body) (hp : ∀ l ∈ layers, l.HasPrelude)
    (hl : ∀ l ∈ layers, l.IsGrouping ∨ l.IsOther) : SelfContained (wrapIn layers body) := by
  induction layers with
  | nil => exact hbody
  | cons l layers ih =>
    rw [List.forall_mem_cons] at hp hl
    obtain ⟨t, F, hopens⟩ := exists_opens hp.1 hl.1
    exact hopens.selfContained_wrap (ih hp.2 hl.2)

/-- If all the at-rules hold rules, a scan comes to the text behind all that is in front of it. -/
theorem scanList_wrapIn (hbody : SelfContained body) (hp : ∀ l ∈ layers, l.HasPrelude)
    (hl : ∀ l ∈ layers, l.IsGrouping) (m : Mark) :
    scanList m (tokens (wrapIn layers body)) = scanList (m.advance (openings layers)) (tokens body) := by
  induction layers generalizing m with
  | nil => rfl
  | cons l layers ih =>
    rw [List.forall_mem_cons] at hp hl
    obtain ⟨t, F, hopens, ht⟩ := hl.1.opens hp.1
    have hinner := selfContained_wrapIn hbody hp.2 fun l hmem => .inl (hl.2 l hmem)
    have hwrap := hopens.scanList_wrap hinner m
    rw [if_pos ht, ih hp.2 hl.2, ← Mark.advance_append] at hwrap
    exact hwrap

/-- If one of the at-rules holds none, a scan does not come to anything. -/
theorem scanList_wrapIn_other (hbody : SelfContained body) (hp : ∀ l ∈ layers, l.HasPrelude)
    (hl : ∀ l ∈ layers, l.IsGrouping ∨ l.IsOther) (hother : ∃ l ∈ layers, l.IsOther) (m : Mark) :
    scanList m (tokens (wrapIn layers body)) = [] := by
  induction layers generalizing m with
  | nil =>
    obtain ⟨l, hmem, -⟩ := hother
    cases hmem
  | cons l layers ih =>
    rw [List.forall_mem_cons] at hp hl
    have hinner := selfContained_wrapIn hbody hp.2 hl.2
    obtain ⟨l', hmem, hother⟩ := hother
    rcases List.mem_cons.1 hmem with rfl | hmem
    · obtain ⟨t, F, hopens, ht⟩ := hother.opens hp.1
      have hwrap := hopens.scanList_wrap hinner m
      rwa [if_neg (by rw [ht]; exact Bool.false_ne_true)] at hwrap
    · obtain ⟨t, F, hopens⟩ := exists_opens hp.1 hl.1
      have hwrap := hopens.scanList_wrap hinner m
      rw [ih hp.2 hl.2 ⟨l', hmem, hother⟩, ite_self] at hwrap
      exact hwrap

/-- What is in front of a text ends in a bracket, so that no line end is cut in two. -/
theorem getLast?_openings (layers : List Layer) : (openings layers).getLast? ≠ some '\r' := by
  rcases List.eq_nil_or_concat layers with rfl | ⟨layers, l, rfl⟩
  · nofun
  · have hend : openings (layers.concat l) = openings layers ++ '@' :: (l.name ++ l.prelude) ++ ['\x7b'] := by
      simp [openings, Layer.opening]
    rw [hend, List.getLast?_concat]
    decide

/-- A self-contained text with at-rules around it, each with a prelude that leaves nothing open. If all of them
hold rules, the rules of the text are found, and as much is rejected as in the text alone; the rules are at
their places behind all that is in front of the text. If one of them holds none, nothing is found. -/
theorem scan_wrapIn (hbody : SelfContained body) (hp : ∀ l ∈ layers, l.HasPrelude) :
    ((∀ l ∈ layers, l.IsGrouping) →
      rulesOf (scan (.ofList (wrapIn layers body))) =
        (rulesOf (scan (.ofList body))).map (StyleRule.shifted (openings layers)) ∧
      (rejectionsOf (scan (.ofList (wrapIn layers body)))).length =
        (rejectionsOf (scan (.ofList body))).length) ∧
    ((∀ l ∈ layers, l.IsGrouping ∨ l.IsOther) → (∃ l ∈ layers, l.IsOther) →
      rulesOf (scan (.ofList (wrapIn layers body))) = [] ∧
      rejectionsOf (scan (.ofList (wrapIn layers body))) = []) := by
  have hscan : ∀ cs, scan (.ofList cs) = scanList .start (tokens cs) := fun cs => by
    rw [scan, String.toList_ofList]
  rw [hscan, hscan]
  constructor
  · intro hl
    have hshifted : Mark.start.Shifted (openings layers) (Mark.start.advance (openings layers))
        (textOf (tokens body)) :=
      shifted_start fun h => getLast?_openings layers h.1
    rw [scanList_wrapIn hbody hp hl, scanList_shifted hshifted]
    exact ⟨rulesOf_map_shifted _ _, length_rejectionsOf_map_shifted _ _⟩
  · intro hl hother
    rw [scanList_wrapIn_other hbody hp hl hother]
    exact ⟨rfl, rfl⟩

/-- A rule, a comment, and a piece without a block. -/
def sampleBody : List Char := ".a\x7bx:')'\x7d\n/*\x7d*/ c".toList

/-- At-rules that hold rules, in mixed case, with a prelude of two lines and with none. -/
def sampleLayers : List Layer := [⟨"mEdia".toList, "\n(x)".toList⟩, ⟨"LAYER".toList, []⟩]

/-- An at-rule that does not hold rules. -/
def sampleOther : Layer := ⟨"font-face".toList, " ".toList⟩

/-- The rule of the body is found two lines of text further on, or is not found at all. -/
theorem sampleBody_wrapped :
    rulesOf (scan (.ofList (wrapIn sampleLayers sampleBody))) = [⟨[".a"], ⟨⟨1, 11⟩, ⟨1, 20⟩⟩⟩] ∧
    rulesOf (scan (.ofList (wrapIn (sampleOther :: sampleLayers) sampleBody))) = [] := by
  have hbody : SelfContained sampleBody := selfContained_of_read (by decide +kernel)
  have hprelude : ∀ l : Layer, (l.prelude.head?.all isGap && l.prelude.all fun c => !isDelimiter c) = true →
      (read (some .curly) (tokens (l.prelude ++ ['\x7d']))).rest = [.blockEnd] → l.HasPrelude := by
    intro l hchars hread
    rw [Bool.and_eq_true, Option.all_eq_true, List.all_eq_true] at hchars
    exact ⟨hchars.1, fun c hc => by simpa using hchars.2 c hc, selfContained_of_read hread⟩
  have hp : ∀ l ∈ sampleLayers, l.HasPrelude := by
    rintro l (_ | ⟨_, _ | ⟨_, _ | _⟩⟩)
    · exact hprelude _ (by decide +kernel) (by decide +kernel)
    · exact hprelude _ (by decide +kernel) (by decide +kernel)
  have hother : sampleOther.HasPrelude := hprelude _ (by decide +kernel) (by decide +kernel)
  have hgrouping : ∀ l ∈ sampleLayers, l.IsGrouping := by
    unfold Layer.IsGrouping
    decide +kernel
  have hkeyword : sampleOther.IsOther := ⟨[], ⟨.inl rfl, by decide +kernel⟩, by decide +kernel⟩
  constructor
  · rw [((scan_wrapIn hbody hp).1 hgrouping).1]
    decide +kernel
  · have hall : ∀ l ∈ sampleOther :: sampleLayers, l.HasPrelude := List.forall_mem_cons.2 ⟨hother, hp⟩
    refine ((scan_wrapIn hbody hall).2 ?_ ⟨_, List.mem_cons_self, hkeyword⟩).1
    exact List.forall_mem_cons.2 ⟨.inr hkeyword, fun l hl => .inl (hgrouping l hl)⟩

end Layers

end ClassAtlas.Stylesheet
