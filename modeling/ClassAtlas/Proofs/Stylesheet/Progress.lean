/-
The loop over the rules of a stylesheet. In every list each turn of the loop takes at least one character, and what it
takes tiles the text of the list: items, and between them nothing but white space, comments, the marks `<!--` and `-->`
and an `@charset` rule in front of all items. The loop ends at the end of the stylesheet, or in a block in front of the
bracket that matches the one it started behind; whatever stands in front of a rule that the tree of the stylesheet has,
the loop comes to that rule (`passageOf_reaches_end`).
-/
import ClassAtlas.Proofs.Stylesheet.Cursor
import ClassAtlas.Proofs.Stylesheet.Contained
import ClassAtlas.Proofs.Stylesheet.Spans
import Mathlib.Algebra.BigOperators.Group.List.Basic

namespace ClassAtlas.Stylesheet

/-! ## Text of tokens -/

theorem text_ne_nil_of_mem_tokens {cs : List Char} {t : Token} (ht : t ∈ tokens cs) : t.text ≠ [] := by
  fun_induction tokens cs with
  | case1 => simp at ht
  | case2 c r kind n hl ih =>
    rcases List.mem_cons.1 ht with rfl | ht
    · simp
    · exact ih ht

theorem length_le_length_flatMap {α β : Type} {f : α → List β} {xs : List α} (h : ∀ x ∈ xs, f x ≠ []) :
    xs.length ≤ (xs.flatMap f).length := by
  have hsum := List.length_le_sum_of_one_le (xs.map fun x => (f x).length) (by
    rw [List.forall_mem_map]
    exact fun x hx => List.length_pos_iff.2 (h x hx))
  rwa [List.length_map, ← List.length_flatMap] at hsum

theorem textOf_ne_nil {ts : List Token} (h : ∀ t ∈ ts, t.text ≠ []) (hne : ts ≠ []) : textOf ts ≠ [] := by
  have hle : ts.length ≤ (textOf ts).length := length_le_length_flatMap h
  have hpos := List.length_pos_iff.2 hne
  rw [← List.length_pos_iff]
  omega

/-- The token of a text that closes a block is a bracket by itself. -/
theorem eq_blockEnd {cs : List Char} {u : Token} (hu : u ∈ tokens cs) (hc : u.closesBlock = true) : u = .blockEnd := by
  have htext := text_of_closes hu hc
  obtain ⟨kind, text⟩ := u
  have hkind : kind = .closing .curly := beq_iff_eq.1 hc
  rw [hkind, show text = ['\x7d'] from htext]
  rfl

/-! ## Matching brackets -/

/-- What is in front of the first bracket that closes the block leaves no bracket open and none unmatched. -/
theorem exists_forest_of_cut (ts : List Token) : ∃ F ended, Forest (some .curly) ended F ∧
    tokensOf F = (cut Token.closesBlock [] ts).1 ∧ ((cut Token.closesBlock [] ts).2 ≠ [] → ended = true) := by
  obtain ⟨F, rest, rfl, ⟨ended, hforest, hended⟩, hstops⟩ := read (some .curly) ts
  have hmay : MayPass Token.closesBlock (some .curly) [] F := .inr ⟨rfl, hforest.not_closes_head⟩
  obtain ⟨pending, hpass, hpending⟩ := hforest.passes hmay
  refine ⟨F, ended, hforest, ?_⟩
  cases rest with
  | nil =>
    rw [List.append_nil, hpass.eq]
    simp
  | cons u left =>
    obtain rfl := hpending (hended (List.cons_ne_nil _ _))
    obtain ⟨b, hb, hu⟩ := hstops u rfl
    cases hb
    have hcut : cut Token.closesBlock [] (u :: left) = ([], u :: left) := by
      rw [cut, if_pos]
      exact hu
    rw [hpass, hcut]
    simp [hended]

/-! ## Going through a list -/

theorem Lined.tokens_ne_nil {first : Bool} {pieces : List Piece} (h : Lined first pieces) :
    ∀ x ∈ pieces, x.tokens ≠ [] := by
  induction h with
  | nil => simp
  | between _ _ ih => exact List.forall_mem_cons.2 ⟨by simp [Piece.tokens], ih⟩
  | charset _ hi _ ih => exact List.forall_mem_cons.2 ⟨hi, ih⟩
  | item _ hi _ ih => exact List.forall_mem_cons.2 ⟨hi, ih⟩

/-- How a loop goes through some tokens, in a block or not. -/
structure GoesThrough (inBlock : Bool) {ts : List Token} (p : Passage ts) : Prop where
  /-- What stands between items is passed over, and so is an `@charset` rule in front of all items; every other piece is
  an item that is handed on. -/
  lined : Lined true p.pieces
  /-- The items are those that a scan reads in what was taken. -/
  items : p.pieces.filterMap Piece.item? = itemsOf p.taken
  /-- Each turn takes at least one character. -/
  progress : ∀ x ∈ p.pieces, textOf x.tokens ≠ []
  /-- So there are at most as many turns as characters. -/
  turns : p.pieces.length ≤ (textOf p.taken).length
  tiles : (p.pieces.flatMap fun x => textOf x.tokens) ++ textOf p.left = textOf ts
  /-- The loop ends where the stylesheet ends, or in a block at a closing bracket. -/
  ends : p.left = [] ∨ inBlock = true ∧ p.left.head? = some .blockEnd
  /-- That bracket closes the block of the loop: what was taken leaves no bracket open and none unmatched. -/
  matched : inBlock = true → ∃ F ended, Forest (some .curly) ended F ∧ tokensOf F = p.taken ∧
    (p.left ≠ [] → ended = true)

theorem textOf_flatMap_tokens (pieces : List Piece) :
    textOf (pieces.flatMap Piece.tokens) = pieces.flatMap fun x => textOf x.tokens :=
  List.flatMap_assoc

/-- A loop that takes what is in front of the end of its list goes through the list. -/
theorem Follows.goesThrough {inBlock : Bool} {m : Mark} {ts : List Token} {p : Passage ts}
    (h : Follows inBlock true m p) {cs : List Char} (hts : ∀ t ∈ ts, t ∈ tokens cs) : GoesThrough inBlock p := by
  have htext : ∀ t ∈ p.taken, t.text ≠ [] := by
    intro t ht
    refine text_ne_nil_of_mem_tokens (hts t ?_)
    rw [← p.whole]
    exact List.mem_append_left _ ht
  have hprogress : ∀ x ∈ p.pieces, textOf x.tokens ≠ [] := by
    intro x hx
    refine textOf_ne_nil (fun t ht => htext t ?_) (h.lined.tokens_ne_nil x hx)
    exact List.mem_flatMap.2 ⟨x, hx, ht⟩
  refine ⟨h.lined, ?_, hprogress, ?_, ?_, ?_, fun hb => ?_⟩
  · have hitems := h.items
    rwa [h.cut_eq] at hitems
  · rw [Passage.taken, textOf_flatMap_tokens]
    exact length_le_length_flatMap hprogress
  · rw [← textOf_flatMap_tokens, ← textOf_append, p.whole]
  · cases hleft : p.left with
    | nil => exact .inl rfl
    | cons u rest =>
      have hstop : u.endsList inBlock = true := stop_of_cut (hleft ▸ h.cut_eq)
      obtain ⟨hb, hu⟩ := (Bool.and_eq_true _ _).mp hstop
      have hmem : u ∈ tokens cs := hts u (by rw [← p.whole, hleft]; simp)
      refine .inr ⟨hb, ?_⟩
      rw [List.head?_cons, eq_blockEnd hmem hu]
  · subst hb
    have hcut : cut Token.closesBlock [] ts = (p.taken, p.left) := h.cut_eq
    have hforest := exists_forest_of_cut ts
    rwa [hcut] at hforest

/-! ## Going on to the end -/

/-- The loop over the rules of a stylesheet. -/
def passageOf (css : String) : Passage (tokens css.toList) :=
  passage false true .start (tokens css.toList)

/-- The loop over a stylesheet goes on to its end: nothing stops it in front of a rule. -/
structure GoesOn (css : String) : Prop where
  through : GoesThrough false (passageOf css)
  atEnd : (passageOf css).left = []
  whole : ((passageOf css).pieces.flatMap fun x => textOf x.tokens) = css.toList
  found : (passageOf css).found = scan css
  /-- It comes to every rule of the tree, whatever stands in front of the rule. -/
  reached : ∀ s ∈ stylesOf (ruleTree css), s.isDeclaration = false → .rule s.rule ∈ (passageOf css).found
  /-- A loop that is sent into a block, whichever it is, goes through the block, and leaves nothing of it for which the
  at-rule would be rejected. -/
  blocks : ∀ before o ts, tokens css.toList = before ++ o :: ts → o.opensBlock = true → ∀ m,
    GoesThrough true (passage true true m ts) ∧ (passage true true m ts).isSpent = true

@[simp] theorem cut_endsList_false (pending : List Bracket) (ts : List Token) :
    cut (Token.endsList false) pending ts = (ts, []) := by
  induction ts generalizing pending with
  | nil => rfl
  | cons t r ih => rw [cut_cons_of_neg (by simp), ih]

theorem mem_rulesOf {found : List Finding} {r : StyleRule} : r ∈ rulesOf found ↔ .rule r ∈ found := by
  unfold rulesOf
  rw [List.mem_filterMap]
  constructor
  · rintro ⟨f, hf, hr⟩
    cases f with
    | rule r' =>
      cases hr
      exact hf
    | rejection => cases hr
  · intro hr
    exact ⟨_, hr, rfl⟩

theorem passageOf_reaches_end (css : String) : GoesOn css := by
  have hfollows : Follows false true .start (passageOf css) := follows_passage _ _ _ _
  have hthrough : GoesThrough false (passageOf css) := hfollows.goesThrough fun _ ht => ht
  have hleft : (passageOf css).left = [] := by
    have hcut := hfollows.left
    rwa [cut_endsList_false] at hcut
  have hfound : (passageOf css).found = scan css := by
    have hcut := hfollows.found
    rwa [cut_endsList_false] at hcut
  refine ⟨hthrough, hleft, ?_, hfound, ?_, ?_⟩
  · have htiles := hthrough.tiles
    have hend : textOf (passageOf css).left = [] := by rw [hleft]; rfl
    rwa [hend, List.append_nil, textOf_tokens] at htiles
  · intro s hs hdeclares
    rw [hfound, ← mem_rulesOf, rulesOf_scan_eq_map]
    exact List.mem_map_of_mem (List.mem_filter.2 ⟨hs, by simp [hdeclares]⟩)
  · intro before o ts hts _ m
    have hinner := follows_passage true true m ts
    exact ⟨hinner.goesThrough fun t ht => by rw [hts]; simp [ht], (hinner.block o).1⟩

/-- A bracket that closes nothing is part of the next item at the top, and in a block the list ends in front of it. -/
example : (passageOf "\x7da\x7b\x7d.b\x7b\x7d").pieces.map Piece.tokens =
      [tokens "\x7da\x7b\x7d".toList, tokens ".b\x7b\x7d".toList] ∧
    (passage true true .start (tokens "@media x;\x7da\x7b\x7d".toList)).left = tokens "\x7da\x7b\x7d".toList := by
  decide +kernel

end ClassAtlas.Stylesheet
