/-
Texts that leave nothing open. The tokens of such a text (`SelfContained`) do not depend on what is written
behind it, if that starts with a delimiter (`LeavesNoneOpen.tokens_append`), and its components are all
closed, so that it can stand in a block. It stays such a text without the white space at its start
(`SelfContained.of_gap_append`).
-/
import ClassAtlas.Proofs.Stylesheet.Appended
import ClassAtlas.Proofs.Stylesheet.Component

namespace ClassAtlas.Stylesheet

open Token

/-! ## Texts that leave nothing open -/

/-- The token that closes a block. -/
def Token.blockEnd : Token := ⟨.closing .curly, ['\x7d']⟩

/-- The token that opens a block. -/
def Token.blockStart : Token := ⟨.opening .curly, ['\x7b']⟩

/-- No string, comment, url or escape is open at the end of a text: a bracket behind it is a token by
itself. -/
def LeavesNoneOpen (cs : List Char) : Prop :=
  (tokens (cs ++ ['\x7d'])).getLast? = some .blockEnd

instance (cs : List Char) : Decidable (LeavesNoneOpen cs) :=
  inferInstanceAs (Decidable (_ = _))

example : LeavesNoneOpen "a 'b' url(c) /*d*/ \\e".toList ∧ ¬ LeavesNoneOpen "a 'b".toList ∧
    ¬ LeavesNoneOpen "url(c".toList ∧ ¬ LeavesNoneOpen "/*d".toList ∧ ¬ LeavesNoneOpen "\\".toList := by
  decide +kernel

/-- A text that leaves no string, comment, url or escape open, and no bracket, and that has no closing curly
bracket outside all brackets. -/
structure SelfContained (cs : List Char) : Prop where
  complete : LeavesNoneOpen cs
  closed : ∃ F, Forest (some .curly) true F ∧ tokensOf F = tokens cs

theorem textOf_tokens (cs : List Char) : textOf (tokens cs) = cs :=
  flatMap_text_tokens cs

theorem LeavesNoneOpen.tokens_concat {cs : List Char} (h : LeavesNoneOpen cs) :
    tokens (cs ++ ['\x7d']) = tokens cs ++ [.blockEnd] := by
  obtain ⟨first, hfirst⟩ := List.getLast?_eq_some_iff.1 h
  have htext : textOf first = cs := by
    have hall := textOf_tokens (cs ++ ['\x7d'])
    rw [hfirst, textOf_append] at hall
    exact List.append_cancel_right hall
  have hcs : tokens cs = first := by
    rw [← htext] at hfirst ⊢
    have hnil := tokens_append (delimited_cons rfl []) (List.cons_ne_nil _ _) (w := []) (by nofun) hfirst
    rwa [List.append_nil, tokens, List.append_nil] at hnil
  rw [hfirst, hcs]

/-- What starts with a delimiter behind a text that leaves nothing open does not change its tokens. -/
theorem LeavesNoneOpen.tokens_append {cs w : List Char} (h : LeavesNoneOpen cs) (hw : Delimited w) :
    tokens (cs ++ w) = tokens cs ++ tokens w := by
  have hconcat : tokens (textOf (tokens cs) ++ ['\x7d']) = tokens cs ++ [.blockEnd] := by
    rw [textOf_tokens, h.tokens_concat]
  have hjoin := Stylesheet.tokens_append (delimited_cons rfl []) (List.cons_ne_nil _ _) hw hconcat
  rwa [textOf_tokens] at hjoin

/-- Whether a text is self-contained can be read off by a reader that looks for the end of a block. -/
theorem selfContained_of_read {cs : List Char}
    (h : (read (some .curly) (tokens (cs ++ ['\x7d']))).rest = [.blockEnd]) : SelfContained cs := by
  have hwhole := (read (some .curly) (tokens (cs ++ ['\x7d']))).whole
  obtain ⟨ended, hforest, hended⟩ := (read (some .curly) (tokens (cs ++ ['\x7d']))).forest
  rw [h] at hwhole hended
  have hcomplete : LeavesNoneOpen cs := by
    unfold LeavesNoneOpen
    rw [← hwhole, List.getLast?_concat]
  rw [hended (List.cons_ne_nil _ _)] at hforest
  exact ⟨hcomplete, _, hforest, List.append_cancel_right (hwhole.trans hcomplete.tokens_concat)⟩

/-! ## White space in front -/

/-- White space in front of a text is a token by itself, or joins the gap at the start of the text. -/
theorem tokens_gap_cons {c : Char} (hc : isGap c = true) (cs : List Char) :
    ∃ t ts, t.kind = .gap ∧ tokens (c :: cs) = t :: ts ∧
      (tokens cs = ts ∨ ∃ t', t'.kind = .gap ∧ tokens cs = t' :: ts) := by
  refine ⟨_, _, ?_, tokens_gap hc cs, ?_⟩
  · rfl
  · cases cs with
    | nil => exact .inl rfl
    | cons d r =>
      cases hd : isGap d with
      | true =>
        rw [List.dropWhile_cons_of_pos hd]
        exact .inr ⟨_, rfl, tokens_gap hd r⟩
      | false =>
        rw [List.dropWhile_cons_of_neg (by rw [hd]; exact Bool.false_ne_true)]
        exact .inl rfl

theorem Forest.tail_of_tokensOf {within : Option Bracket} {ended : Bool} {F : List Component} {t : Token}
    {ts : List Token} (h : Forest within ended F) (ht : tokensOf F = t :: ts) (ho : t.opens? = none) :
    ∃ r, Forest within ended r ∧ tokensOf r = ts := by
  cases h with
  | nil => rw [tokensOf_nil] at ht; cases ht
  | leaf _ _ hr =>
    rw [tokensOf_leaf, List.cons.injEq] at ht
    exact ⟨_, hr, ht.2⟩
  | closed ho' _ _ _ =>
    rw [tokensOf_group, List.cons.injEq] at ht
    rw [ht.1, ho] at ho'
    cases ho'
  | unclosed ho' _ =>
    rw [tokensOf_group, List.cons.injEq] at ht
    rw [ht.1, ho] at ho'
    cases ho'

theorem SelfContained.of_gap_cons {c : Char} {cs : List Char} (hc : isGap c = true) (h : SelfContained (c :: cs)) :
    SelfContained cs where
  complete := by
    have hlast := h.complete
    unfold LeavesNoneOpen at hlast ⊢
    obtain ⟨t, ts, ht, hall, htail⟩ := tokens_gap_cons hc (cs ++ ['\x7d'])
    rw [List.cons_append, hall] at hlast
    -- the gap is not the last token
    have hne : ts ≠ [] := by
      rintro rfl
      rw [List.getLast?_singleton, Option.some.injEq] at hlast
      rw [hlast] at ht
      cases ht
    rw [List.getLast?_cons_of_ne_nil hne] at hlast
    rcases htail with htail | ⟨t', -, htail⟩
    · rw [htail, hlast]
    · rw [htail, List.getLast?_cons_of_ne_nil hne, hlast]
  closed := by
    obtain ⟨F, hF, htokens⟩ := h.closed
    obtain ⟨t, ts, ht, hall, htail⟩ := tokens_gap_cons hc cs
    obtain ⟨r, hr, hts⟩ := hF.tail_of_tokensOf (htokens.trans hall) (by rw [Token.opens?, ht])
    rcases htail with htail | ⟨t', ht', htail⟩
    · exact ⟨r, hr, hts.trans htail.symm⟩
    · refine ⟨.leaf t' :: r, .leaf (by rw [Token.opens?, ht']) ?_ hr, by rw [tokensOf_leaf, hts, htail]⟩
      intro b _
      rw [Token.closes, ht']
      rfl

/-- White space can be taken off the front of a self-contained text. -/
theorem SelfContained.of_gap_append {gap cs : List Char} (hgap : ∀ c ∈ gap, isGap c = true)
    (h : SelfContained (gap ++ cs)) : SelfContained cs := by
  induction gap with
  | nil => exact h
  | cons c gap ih =>
    rw [List.forall_mem_cons] at hgap
    exact ih hgap.2 (h.of_gap_cons hgap.1)

end ClassAtlas.Stylesheet
