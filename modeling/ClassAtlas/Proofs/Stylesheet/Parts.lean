/-
Parts of preludes. The selectors of a style rule are made from the parts of its prelude between its
commas (`selectors_eq_map`), and behind each part there stands a comma, or the bracket that opens the
block (`exists_readBefore`): the tokens of a part are those of its text wherever that is followed so.
-/
import ClassAtlas.Proofs.Stylesheet.Appended
import ClassAtlas.Proofs.Stylesheet.Edge

namespace ClassAtlas.Stylesheet

open Text (isBlank AllBlank)
open Token

/-! ## Style rules as they are read -/

/-- What is known of a style rule by itself: its prelude is a forest, and its block starts with a curly
bracket. -/
structure StyleNode.Formed (s : StyleNode) : Prop where
  prelude : ∃ within ended, Forest within ended s.prelude
  opener : s.opener.opensBlock = true

theorem formed_of_mem {within : Option Bracket} {ended : Bool} {F : List Component}
    (h : Forest within ended F) {before : List Char} {s : StyleNode} (hs : s ∈ stylesOf (rulesIn before F)) :
    s.Formed := by
  fun_induction rulesIn before F generalizing within ended with
  | case1 before F gap hF => rw [stylesOf] at hs; cases hs
  | case2 before F gap c rest hF hk prelude hr => simp [stylesOf, Node.styles] at hs
  | case3 before F gap c rest hF hk prelude u more hr ih =>
    obtain ⟨_, hmore⟩ := h.behind_atRule hF hr
    rw [stylesOf, Node.styles, List.nil_append] at hs
    exact ih hmore hs
  | case4 before F gap c rest hF hk prelude o inside closer more hr ihi ih =>
    obtain ⟨_, hmore⟩ := h.behind_atRule hF hr
    obtain ⟨_, _, hinside⟩ := h.inside_atRule hF hr
    rw [stylesOf, Node.styles, List.mem_append] at hs
    rcases hs with hs | hs
    · split at hs
      · exact ihi hinside hs
      · cases hs
    · exact ih hmore hs
  | case5 before F gap c rest hF hk prelude o inside closer more hr ih =>
    obtain ⟨e, hc⟩ := (h.of_span_eq hF).2
    obtain ⟨⟨e', hprelude⟩, e'', hgroup⟩ := hc.of_span_eq hr
    obtain ⟨_, hmore⟩ := hgroup.tail
    rw [stylesOf, Node.styles, List.singleton_append, List.mem_cons] at hs
    rcases hs with rfl | hs
    · have hopen := of_span_eq_cons hr
      rw [Bool.not_eq_false'] at hopen
      exact ⟨⟨within, e', hprelude⟩, hopen⟩
    · exact ih hmore hs
  | case6 before F gap c rest hF hk prelude more hg hr => simp [stylesOf, Node.styles] at hs

theorem formed_of_mem_notedNodes {css : String} {s : StyleNode} (hs : s ∈ notedNodes css) : s.Formed := by
  obtain ⟨ended, h⟩ := forest_componentsOf (tokens css.toList)
  exact formed_of_mem h (List.mem_filter.1 hs).1

/-! ## Parts -/

/-- The parts of the prelude between its commas outside all brackets. -/
def StyleNode.parts (s : StyleNode) : List (List Token) :=
  commaParts [] (tokensOf s.prelude)

/-- The parts of all style rules of a stylesheet. -/
def partsOf (css : String) : List (List Token) :=
  (stylesOf (ruleTree css)).flatMap StyleNode.parts

theorem mem_partsOf {css : String} {s : StyleNode} (hs : s ∈ notedNodes css) {part : List Token}
    (hp : part ∈ s.parts) : part ∈ partsOf css :=
  List.mem_flatMap.2 ⟨s, (List.mem_filter.1 hs).1, hp⟩

/-- A selector is made from each part of the prelude. -/
theorem StyleNode.Formed.selectors_eq_map {s : StyleNode} (h : s.Formed) :
    s.selectors = s.parts.map selectorOf := by
  obtain ⟨within, ended, hprelude⟩ := h.prelude
  exact (selectorsOf_tokensOf hprelude).symm

/-- A part stands between commas, or an end of the prelude. -/
theorem exists_of_mem_commaParts {pending : List Bracket} {ts part : List Token}
    (h : part ∈ commaParts pending ts) :
    ∃ left right, ts = left ++ (part ++ right) ∧ ∀ u ∈ right.head?, u.kind = .comma := by
  induction hn : ts.length using Nat.strongRecOn generalizing pending ts with
  | ind n ih =>
    subst hn
    have hsplit := cut_append (fun t => t.kind == .comma) pending ts
    rw [commaParts_eq_cut, List.mem_cons] at h
    cases hleft : (cut (fun t => t.kind == .comma) pending ts).2 with
    | nil =>
      rw [hleft] at h hsplit
      obtain rfl := h.resolve_right List.not_mem_nil
      refine ⟨[], [], hsplit.symm, ?_⟩
      rintro _ ⟨⟩
    | cons u rest =>
      rw [hleft] at h hsplit
      rcases h with rfl | h
      · refine ⟨[], u :: rest, hsplit.symm, ?_⟩
        rintro _ ⟨⟩
        exact beq_iff_eq.1 (stop_of_cut (Prod.ext rfl hleft))
      · have hlength := congrArg List.length hsplit
        rw [List.length_append, List.length_cons] at hlength
        obtain ⟨left, right, hrest, hright⟩ := ih rest.length (by omega) h rfl
        rw [hrest] at hsplit
        exact ⟨(cut (fun t => t.kind == .comma) pending ts).1 ++ u :: left, right, by simpa using hsplit.symm,
          hright⟩

/-! ## Reading a part -/

theorem isSpacing_iff {t : Token} : t.isSpacing = true ↔ t.kind = .gap ∨ t.kind = .comment := by
  rw [Token.isSpacing, Bool.or_eq_true, beq_iff_eq, beq_iff_eq]

/-- Whether some tokens are what their text is read as in front of another text. -/
def ReadBefore (v : List Char) (ts : List Token) : Prop :=
  tokens (textOf ts ++ v) = ts ++ tokens v

/-- White space is followed by none. -/
theorem not_isGap_behind {cs : List Char} {t : Token} {rest : List Token} (h : tokens cs = t :: rest)
    (hk : t.kind = .gap) : (∀ c ∈ t.text, isGap c = true) ∧ ∀ c ∈ (textOf rest).head?, isGap c = false := by
  cases cs with
  | nil => rw [tokens] at h; cases h
  | cons c r =>
    have hstart := starts_lexeme c r
    have hkind : (lexeme (c :: r)).1 = .gap := by
      rw [tokens_cons, List.cons.injEq] at h
      rw [← hk, ← h.1]
    generalize lexeme (c :: r) = l at hstart hkind
    cases hstart with
    | gap hc =>
      rw [tokens_gap hc, List.cons.injEq] at h
      obtain ⟨rfl, rfl⟩ := h
      refine ⟨List.forall_mem_cons.2 ⟨hc, fun d hd => List.all_eq_true.1 List.all_takeWhile d hd⟩, fun d hd => ?_⟩
      rw [show textOf (tokens (r.dropWhile isGap)) = r.dropWhile isGap from flatMap_text_tokens _] at hd
      have hhead := List.head?_dropWhile_not isGap r
      rw [Option.mem_def.1 hd] at hhead
      simpa using hhead
    | inner hi => rw [hkind] at hi; cases hi
    | _ => cases hkind

section ReadBefore

variable {v : List Char} {t : Token} {ts : List Token}

theorem ReadBefore.of_append {first second : List Token} (h : ReadBefore v (first ++ second)) :
    ReadBefore v second := by
  unfold ReadBefore at h
  rw [List.append_assoc] at h
  have hsecond := tokens_textOf first h
  rw [textOf_append] at hsecond
  rwa [show textOf (tokens v) = v from flatMap_text_tokens v] at hsecond

theorem ReadBefore.tail (h : ReadBefore v (t :: ts)) : ReadBefore v ts := by
  have hsplit : ReadBefore v ([t] ++ ts) := h
  exact hsplit.of_append

/-- The first token is the lexeme that starts the text. -/
theorem ReadBefore.lexeme_eq (h : ReadBefore v (t :: ts)) (hv : v ≠ []) : t.text ≠ [] ∧
    (lexeme (textOf (t :: ts) ++ v)).1 = t.kind ∧
    (lexeme (textOf (t :: ts) ++ v)).2 - 1 = t.text.length - 1 := by
  have hs : textOf (t :: ts) ++ v = t.text ++ (textOf ts ++ v) := List.append_assoc _ _ _
  unfold ReadBefore at h
  cases hcs : textOf (t :: ts) ++ v with
  | nil => exact absurd (List.append_eq_nil_iff.1 hcs).2 hv
  | cons c r =>
    rw [hcs, tokens_cons, List.cons_append, List.cons.injEq, Token.mk.injEq] at h
    obtain ⟨⟨hkind, htext⟩, -⟩ := h
    have hlength := congrArg List.length hcs
    have hpos := List.length_pos_iff.2 hv
    have htake := congrArg List.length htext
    rw [hs, List.length_append, List.length_append, List.length_cons] at hlength
    rw [List.length_cons, List.length_take] at htake
    refine ⟨?_, hkind, by omega⟩
    rw [← htext]
    exact List.cons_ne_nil _ _

theorem ReadBefore.gap (h : ReadBefore v (t :: ts)) (hv : v ≠ []) (hk : t.kind = .gap) :
    AllBlank t.text ∧ ∀ u ∈ ts.head?, u.kind ≠ .gap := by
  obtain ⟨htext, hrest⟩ := not_isGap_behind h hk
  refine ⟨fun c hc => isBlank_of_isGap (htext c hc), fun u hu hgap => ?_⟩
  obtain ⟨us, rfl⟩ := List.head?_eq_some_iff.1 hu
  obtain ⟨c, r, hc⟩ := List.exists_cons_of_ne_nil (h.tail.lexeme_eq hv).1
  have hyes := (not_isGap_behind h.tail hgap).1 c (by rw [hc]; exact List.mem_cons_self)
  have hno := hrest c (by rw [textOf, List.append_eq, List.cons_append, List.flatMap_cons, hc]; rfl)
  rw [hyes] at hno
  cases hno

theorem ReadBefore.comment (h : ReadBefore v (t :: ts)) (hv : v ≠ []) (hk : t.kind = .comment) :
    ∃ q, textOf (t :: ts) = '/' :: '*' :: q ∧ commentLength (q ++ v) ≤ q.length ∧
      textOf ts = q.drop (commentLength (q ++ v)) := by
  obtain ⟨hne, hkind, hlength⟩ := h.lexeme_eq hv
  have hs : textOf (t :: ts) = t.text ++ textOf ts := rfl
  obtain ⟨c, r, htext⟩ := List.exists_cons_of_ne_nil hne
  rw [hk] at hkind
  have hcs : textOf (t :: ts) ++ v = c :: (r ++ (textOf ts ++ v)) := by
    rw [hs, htext, List.append_assoc]
    rfl
  rw [hcs] at hkind hlength
  have hstart := starts_lexeme c (r ++ (textOf ts ++ v))
  generalize lexeme (c :: (r ++ (textOf ts ++ v))) = l at hstart hkind hlength
  cases hstart with
  | @comment q hq =>
    rw [List.cons.injEq] at hq
    obtain ⟨rfl, hq⟩ := hq
    rw [htext, List.length_cons] at hlength
    cases r with
    | nil => simp at hlength
    | cons d r =>
      rw [List.cons_append, List.cons.injEq] at hq
      obtain ⟨rfl, rfl⟩ := hq
      have hr : commentLength (r ++ (textOf ts ++ v)) = r.length := by
        simp only [List.length_cons] at hlength
        omega
      refine ⟨r ++ textOf ts, by rw [hs, htext]; rfl, ?_, ?_⟩
      · rw [List.append_assoc, hr, List.length_append]
        exact Nat.le_add_right _ _
      · rw [List.append_assoc, hr, List.drop_left]
  | inner hi => rw [hkind] at hi; cases hi
  | _ => cases hkind

/-- What starts with the mark that opens a comment is one. -/
theorem ReadBefore.kind_of_comment (h : ReadBefore v (t :: ts)) (hv : v ≠ []) {q : List Char}
    (hq : textOf (t :: ts) = '/' :: '*' :: q) : t.kind = .comment := by
  rw [← (h.lexeme_eq hv).2.1, hq]
  rfl

/-- White space is made of gaps, and a comment has a slash. -/
structure Token.Spelled (t : Token) : Prop where
  gap : t.kind = .gap → ∀ c ∈ t.text, isGap c = true
  comment : t.kind = .comment → '/' ∈ t.text

theorem Token.Spelled.allBlank {t : Token} (h : t.Spelled) (hk : t.kind = .gap) : AllBlank t.text :=
  fun c hc => isBlank_of_isGap (h.gap hk c hc)

theorem ReadBefore.spelled (h : ReadBefore v ts) (hv : v ≠ []) : ∀ t ∈ ts, t.Spelled := by
  induction ts with
  | nil => nofun
  | cons t ts ih =>
    refine List.forall_mem_cons.2 ⟨⟨fun hk => (not_isGap_behind h hk).1, fun hk => ?_⟩, ih h.tail⟩
    obtain ⟨q, hq, -⟩ := h.comment hv hk
    obtain ⟨c, r, hc⟩ := List.exists_cons_of_ne_nil (h.lexeme_eq hv).1
    rw [textOf, List.flatMap_cons, hc, List.cons_append, List.cons.injEq] at hq
    rw [hc, hq.1]
    exact List.mem_cons_self

end ReadBefore

/-! ## What stands behind a part -/

/-- A text that starts with a comma, or with the bracket that opens a block. -/
def StartsBehindPart (cs : List Char) : Prop :=
  ∃ c r, cs = c :: r ∧ (c = ',' ∨ c = '\x7b')

theorem edged_of_startsBehindPart {v : List Char} (hv : StartsBehindPart v) : Edged v := by
  obtain ⟨c, r, rfl, rfl | rfl⟩ := hv
  · exact ⟨',', r, rfl, rfl⟩
  · exact ⟨'\x7b', r, rfl, rfl⟩

theorem ne_nil_of_startsBehindPart {v : List Char} (hv : StartsBehindPart v) : v ≠ [] := by
  obtain ⟨c, r, rfl, -⟩ := hv
  exact List.cons_ne_nil c r

theorem startsBehindPart_of_tokens {cs : List Char} {u : Token} {rest : List Token} (h : tokens cs = u :: rest)
    (hu : u.kind = .comma ∨ u.opensBlock = true) : StartsBehindPart cs := by
  cases cs with
  | nil => rw [tokens] at h; cases h
  | cons c r =>
    refine ⟨c, r, rfl, ?_⟩
    have hkind : (lexeme (c :: r)).1 = .comma ∨ (lexeme (c :: r)).1 = .opening .curly := by
      rw [tokens_cons, List.cons.injEq] at h
      rw [← h.1] at hu
      exact hu.imp_right beq_iff_eq.1
    have hstart := starts_lexeme c r
    generalize lexeme (c :: r) = l at hstart hkind
    cases hstart with
    | comma hc => exact .inl hc
    | blockStart hc => exact .inr hc
    | inner hi => rcases hkind with hk | hk <;> rw [hk] at hi <;> cases hi
    | _ => rcases hkind with hk | hk <;> cases hk

/-- A part of the prelude of a style rule is what its text is read as, with a comma or the block of the
rule behind it. -/
theorem exists_readBefore {css : String} {part : List Token} (hp : part ∈ partsOf css) :
    ∃ v, StartsBehindPart v ∧ ReadBefore v part := by
  obtain ⟨s, hs, hp⟩ := List.mem_flatMap.1 hp
  obtain ⟨ended, h⟩ := forest_componentsOf (tokens css.toList)
  obtain ⟨left, right, hts, -⟩ := (located_of_mem h hs).split
  rw [tokensOf_componentsOf] at hts
  obtain ⟨l, r, hprelude, hr⟩ := exists_of_mem_commaParts hp
  obtain ⟨u, rest, hrest, hu⟩ : ∃ u rest, r ++ s.opener :: (tokensOf s.inside ++ s.closer.toList ++ right) = u :: rest ∧
      (u.kind = .comma ∨ u.opensBlock = true) := by
    cases r with
    | nil => exact ⟨_, _, rfl, .inr (formed_of_mem h hs).opener⟩
    | cons u r => exact ⟨u, _, rfl, .inl (hr u rfl)⟩
  have hall : tokens css.toList = (left ++ l) ++ (part ++ u :: rest) := by
    rw [hts, StyleNode.tokens, hprelude, ← hrest]
    simp
  have hpart := tokens_textOf (left ++ l) hall
  have hbehind : tokens (textOf (u :: rest)) = u :: rest :=
    tokens_textOf (left ++ l ++ part) (by rw [hall, List.append_assoc _ part])
  rw [textOf_append] at hpart
  exact ⟨textOf (u :: rest), startsBehindPart_of_tokens hbehind hu, by rw [ReadBefore, hpart, hbehind]⟩

end ClassAtlas.Stylesheet
