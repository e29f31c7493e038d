/-
Texts put together at a delimiter. A token that ends before a delimiter is the same whatever stands there
and behind it (`lexeme_append`), and so are all tokens before it (`tokens_append`). A delimiter is a token
by itself, so that the tokens behind it are those of the text behind it (`tokens_delimiter`).
-/
import ClassAtlas.Proofs.Stylesheet.Delimiter
import ClassAtlas.Proofs.Stylesheet.Lexeme
import ClassAtlas.Stylesheet.Rules

namespace ClassAtlas.Stylesheet

namespace Token

/-! ## The token before a delimiter -/

theorem named_ident {s : List Char} {n : Nat} (hn : nameLength 0 s = n) (h : (s.drop n).head? ≠ some '(') :
    named s = (.ident, n) := by
  subst hn
  unfold named
  dsimp only
  split
  · next r hr => exact absurd (by rw [hr]; rfl) h
  · rfl

theorem named_bracket {s r : List Char} {n : Nat} (hn : nameLength 0 s = n) (h : s.drop n = '(' :: r) :
    named s = if namesKeyword (s.take n) "url" then
        match urlLength? r with
        | some k => (.url, n + 1 + k)
        | none => (.function, n + 1)
      else (.function, n + 1) := by
  subst hn
  unfold named
  dsimp only
  rw [h]
  rfl

/-- The kind of the token that a delimiter is. -/
def delimiterKind (d : Char) : Kind :=
  if d = ';' then .semicolon else if d = '\x7b' then .opening .curly else .closing .curly

/-- A delimiter at the start of a text is a token. -/
theorem lexeme_delimiter {d : Char} (hd : isDelimiter d = true) (r : List Char) :
    lexeme (d :: r) = (delimiterKind d, 1) := by
  rcases eq_of_isDelimiter hd with rfl | rfl | rfl <;> rfl

/-- A choice between two tokens is the same if each of the two is, as far as it is short enough. -/
theorem ite_congr_of_le {p : Prop} [Decidable p] {a b a' b' : Kind × Nat} {n : Nat}
    (h : (if p then a else b).2 ≤ n) (ha : p → a.2 ≤ n → a' = a) (hb : ¬ p → b.2 ≤ n → b' = b) :
    (if p then a' else b') = if p then a else b := by
  split
  · next hp => rw [if_pos hp] at h; exact ha hp h
  · next hp => rw [if_neg hp] at h; exact hb hp h

section Lengths

variable {u v w : List Char} (hv : Delimited v) (hne : v ≠ []) (hw : Delimited w)
include hv hne hw

theorem commentLength_append (h : commentLength (u ++ v) ≤ u.length) :
    commentLength (u ++ w) = commentLength (u ++ v) := by
  obtain ⟨d, v, rfl⟩ := List.exists_cons_of_ne_nil hne
  induction u with
  | nil =>
    have hopen : commentLength (d :: v) = commentLength v + 1 := by
      rcases eq_of_isDelimiter (hv d rfl) with rfl | rfl | rfl <;> rfl
    rw [List.nil_append, hopen] at h
    exact absurd h (Nat.not_succ_le_zero _)
  | cons c u ih =>
    rw [List.cons_append, List.cons_append, List.length_cons] at *
    by_cases hc : c = '*' ∧ u.head? = some '/'
    · obtain ⟨rfl, hslash⟩ := hc
      obtain ⟨r, rfl⟩ := List.head?_eq_some_iff.1 hslash
      rfl
    · have hopen : ∀ {x}, Delimited x → commentLength (c :: (u ++ x)) = commentLength (u ++ x) + 1 := by
        intro x hx
        have hc' : ¬ (c = '*' ∧ (u ++ x).head? = some '/') := by rwa [head?_append_delimited hx rfl]
        cases hr : u ++ x with
        | nil => simp [commentLength]
        | cons e r =>
          rw [hr, List.head?_cons, Option.some.injEq] at hc'
          rw [commentLength]
          rintro r rfl hslash
          rw [List.cons.injEq] at hslash
          exact hc' ⟨rfl, hslash.1⟩
      rw [hopen hv] at h
      rw [hopen hv, hopen hw, ih (Nat.le_of_succ_le_succ h)]

theorem unitLength_append (h : unitLength (u ++ v) ≤ u.length) :
    unitLength (u ++ w) = unitLength (u ++ v) := by
  have hname : ∀ {x}, Delimited x → (∀ c ∈ u.head?, c ≠ '%') →
      unitLength (u ++ x) = if startsName u then nameLength 0 (u ++ x) else 0 := by
    intro x hx hu
    rw [← startsName_append hx u]
    unfold unitLength
    split
    · next r hr =>
      have hhead : (u ++ x).head? = some '%' := by rw [hr]; rfl
      exact absurd rfl (hu '%' ((head?_append_delimited hx rfl u).1 hhead))
    · rfl
  cases u with
  | nil =>
    rw [hname hv nofun, hname hw nofun]
    rfl
  | cons c u =>
    by_cases hc : c = '%'
    · subst hc; rfl
    · have hu : ∀ c' ∈ (c :: u).head?, c' ≠ '%' := by rintro _ ⟨⟩; exact hc
      rw [hname hv hu] at h ⊢
      rw [hname hw hu]
      split
      · next hs =>
        rw [if_pos hs] at h
        exact reads_nameLength.append hv hne hw () 0 h
      · rfl

theorem numberLength_append (h : numberLength (u ++ v) ≤ u.length) :
    numberLength (u ++ w) = numberLength (u ++ v) := by
  have hle := amountLength_le u
  rw [numberLength_eq, numberLength_eq] at *
  rw [amountLength_append (numberless_of_delimited hv), List.drop_append_of_le_length hle] at *
  rw [amountLength_append (numberless_of_delimited hw), List.drop_append_of_le_length hle, unitLength_append hv hne hw]
  rw [List.length_drop]
  omega

theorem urlLength?_append (h : ∀ n ∈ urlLength? (u ++ v), n ≤ u.length) :
    urlLength? (u ++ w) = urlLength? (u ++ v) := by
  have hgap : ∀ {x}, Delimited x → ((u ++ x).takeWhile isGap).length = (u.takeWhile isGap).length := by
    intro x hx
    rw [takeWhile_append_delimited hx (fun c hc => ?_) u]
    rcases eq_of_isDelimiter hc with rfl | rfl | rfl <;> rfl
  have hle : (u.takeWhile isGap).length ≤ u.length := (List.takeWhile_prefix _).length_le
  generalize (u.takeWhile isGap).length = n at hle hgap
  have hurl : ∀ {x}, Delimited x → urlLength? (u ++ x) =
      if (u.drop n).head? = some '"' ∨ (u.drop n).head? = some '\'' then none
      else some (n + urlRest .address 0 (u.drop n ++ x)) := by
    intro x hx
    unfold urlLength?
    dsimp only
    rw [hgap hx, List.drop_append_of_le_length hle]
    simp only [head?_append_delimited hx (c := '"') rfl, head?_append_delimited hx (c := '\'') rfl]
  rw [hurl hv] at h ⊢
  rw [hurl hw]
  split
  · rfl
  · next hq =>
    rw [if_neg hq] at h
    have h := h _ rfl
    rw [reads_urlRest.append hv hne hw .address 0]
    rw [List.length_drop]
    omega

theorem named_append (h : (named (u ++ v)).2 ≤ u.length) : named (u ++ w) = named (u ++ v) := by
  have hn : nameLength 0 (u ++ v) ≤ u.length := by
    refine Nat.le_trans ?_ h
    unfold named
    dsimp only
    split
    · split
      · split <;> dsimp only <;> omega
      · exact Nat.le_succ _
    · exact Nat.le_refl _
  have hname : nameLength 0 (u ++ w) = nameLength 0 (u ++ v) := reads_nameLength.append hv hne hw () 0 hn
  -- what comes behind the name starts with the same character, unless that is a delimiter
  have hdrop : ∀ x, (u ++ x).drop (nameLength 0 (u ++ v)) = u.drop (nameLength 0 (u ++ v)) ++ x :=
    fun _ => List.drop_append_of_le_length hn
  have htake : ∀ x, (u ++ x).take (nameLength 0 (u ++ v)) = u.take (nameLength 0 (u ++ v)) :=
    fun _ => List.take_append_of_le_length hn
  cases hr : u.drop (nameLength 0 (u ++ v)) with
  | nil =>
    have hident : ∀ {x}, Delimited x → ((u ++ x).drop (nameLength 0 (u ++ v))).head? ≠ some '(' := by
      intro x hx
      rw [hdrop, hr, ne_eq, head?_append_delimited hx (c := '(') rfl]
      nofun
    rw [named_ident rfl (hident hv), named_ident hname (hident hw)]
  | cons c r =>
    by_cases hc : c = '('
    · subst hc
      have hbracket : ∀ x, (u ++ x).drop (nameLength 0 (u ++ v)) = '(' :: (r ++ x) := by
        intro x
        rw [hdrop, hr]
        rfl
      rw [named_bracket rfl (hbracket v), htake] at h ⊢
      rw [named_bracket hname (hbracket w), htake]
      split
      · next hkey =>
        rw [if_pos hkey] at h
        have hlength : u.length = nameLength 0 (u ++ v) + 1 + r.length := by
          have := congrArg List.length hr
          rw [List.length_drop, List.length_cons] at this
          omega
        have hurl : urlLength? (r ++ w) = urlLength? (r ++ v) := by
          refine urlLength?_append hv hne hw fun k hk => ?_
          rw [hk] at h
          dsimp only at h
          omega
        rw [hurl]
      · rfl
    · have hident : ∀ x, ((u ++ x).drop (nameLength 0 (u ++ v))).head? ≠ some '(' := by
        intro x
        rw [hdrop, hr, List.cons_append, List.head?_cons, ne_eq, Option.some.injEq]
        exact hc
      rw [named_ident rfl (hident v), named_ident hname (hident w)]

/-- A token that ends before a delimiter does not depend on what stands there and behind it. -/
theorem lexeme_append (h : (lexeme (u ++ v)).2 ≤ u.length) : lexeme (u ++ w) = lexeme (u ++ v) := by
  cases u with
  | nil =>
    obtain ⟨d, v, rfl⟩ := List.exists_cons_of_ne_nil hne
    rw [List.nil_append, (lexeme_delimiter (hv d rfl) v)] at h
    exact absurd h (Nat.not_succ_le_zero _)
  | cons c u =>
    have hgap : ∀ {x}, Delimited x → (c :: (u ++ x)).takeWhile isGap = (c :: u).takeWhile isGap := by
      intro x hx
      refine takeWhile_append_delimited hx (fun c hc => ?_) (c :: u)
      rcases eq_of_isDelimiter hc with rfl | rfl | rfl <;> rfl
    have hnumber : ∀ {x}, Delimited x → startsNumber (c :: (u ++ x)) = startsNumber (c :: u) :=
      fun hx => startsNumber_append (numberless_of_delimited hx) (c :: u)
    have hname : ∀ {x}, Delimited x → startsName (c :: (u ++ x)) = startsName (c :: u) :=
      fun hx => startsName_append hx (c :: u)
    have hopen : ∀ {x}, Delimited x →
        ['<', '!', '-', '-'].isPrefixOf (c :: (u ++ x)) = ['<', '!', '-', '-'].isPrefixOf (c :: u) :=
      fun hx => isPrefixOf_append_delimited hx (by simp [isDelimiter]) (c :: u)
    have hclose : ∀ {x}, Delimited x →
        ['-', '-', '>'].isPrefixOf (c :: (u ++ x)) = ['-', '-', '>'].isPrefixOf (c :: u) :=
      fun hx => isPrefixOf_append_delimited hx (by simp [isDelimiter]) (c :: u)
    have hany : ∀ {x}, Delimited x → (u ++ x).head?.any isNameChar = u.head?.any isNameChar := by
      intro x hx
      cases u with
      | cons d u => rfl
      | nil =>
        cases x with
        | nil => rfl
        | cons d x => rcases eq_of_isDelimiter (hx d rfl) with rfl | rfl | rfl <;> rfl
    rw [List.cons_append] at h
    rw [List.cons_append, List.cons_append]
    unfold lexeme at h ⊢
    dsimp only at h ⊢
    simp only [hgap hv, hnumber hv, hname hv, hopen hv, hclose hv, hany hv, startsName_append hv,
      head?_append_delimited hv (c := '*') rfl, head?_append_delimited hv (c := '=') rfl] at h ⊢
    simp only [hgap hw, hnumber hw, hname hw, hopen hw, hclose hw, hany hw, startsName_append hw,
      head?_append_delimited hw (c := '*') rfl, head?_append_delimited hw (c := '=') rfl]
    -- one step for each test of a lexeme, in their order, up to the last one whose token may be long
    refine ite_congr_of_le h (fun _ _ => rfl) fun _ h => ?_
    refine ite_congr_of_le h (fun hq h => ?_) fun _ h => ?_
    · have hquote : isDelimiter c = false := by rcases hq with rfl | rfl <;> rfl
      rw [(reads_stringLength hquote).append hv hne hw () 0 (Nat.le_of_succ_le_succ h)]
    refine ite_congr_of_le h (fun _ h => ?_) fun _ h => ?_
    · exact congrArg (Prod.mk Kind.number) (numberLength_append hv hne hw (u := c :: u) h)
    refine ite_congr_of_le h (fun hc h => ?_) fun _ h => ?_
    · obtain ⟨r, rfl⟩ := List.head?_eq_some_iff.1 hc.2
      exact congrArg (fun n => (Kind.comment, n + 2))
        (commentLength_append hv hne hw (u := r) (Nat.le_of_add_le_add_right h))
    iterate 2 refine ite_congr_of_le h (fun _ _ => rfl) fun _ h => ?_
    refine ite_congr_of_le h (fun _ h => ?_) fun _ h => ?_
    · exact named_append hv hne hw (u := c :: u) h
    iterate 2
      refine ite_congr_of_le h (fun _ h => ?_) fun _ h => ?_
      · rw [reads_nameLength.append hv hne hw () 0 (Nat.le_of_succ_le_succ h)]
    rfl

end Lengths

/-- Whether a token is a delimiter. -/
def Kind.isDelimiter : Kind → Bool
  | .semicolon | .opening .curly | .closing .curly => true
  | _ => false

theorem Kind.not_isDelimiter {k : Kind} (h : k.isInner = true) : k.isDelimiter = false := by
  cases k with
  | opening b => cases b <;> first | rfl | cases h
  | closing b => cases b <;> first | rfl | cases h
  | _ => first | rfl | cases h

/-- What starts with a character is a delimiter only if the character is. -/
def DelimitsAlone (c : Char) (l : Kind × Nat) : Prop :=
  l.1.isDelimiter = true → Stylesheet.isDelimiter c = true

theorem delimitsAlone_lexeme (c : Char) (r : List Char) : DelimitsAlone c (lexeme (c :: r)) := by
  intro hk
  have hstart := starts_lexeme c r
  generalize lexeme (c :: r) = l at hstart hk
  cases hstart with
  | blockStart hc => rw [hc]; rfl
  | blockEnd hc => rw [hc]; rfl
  | semicolon hc => rw [hc]; rfl
  | inner hi => rw [Kind.not_isDelimiter hi] at hk; cases hk
  | _ => cases hk

end Token

open Token

theorem tokens_cons (c : Char) (r : List Char) :
    tokens (c :: r) = ⟨(lexeme (c :: r)).1, c :: r.take ((lexeme (c :: r)).2 - 1)⟩ ::
      tokens (r.drop ((lexeme (c :: r)).2 - 1)) := by
  rw [tokens]

theorem tokens_delimiter {d : Char} (hd : isDelimiter d = true) (r : List Char) :
    tokens (d :: r) = ⟨delimiterKind d, [d]⟩ :: tokens r := by
  rw [tokens_cons, lexeme_delimiter hd]
  rfl

/-- The first token of a text, if it ends before a delimiter, does not depend on what stands there and
behind it. -/
theorem tokens_cons_append {v w z : List Char} (hv : Delimited v) (hne : v ≠ []) (hw : Delimited w) {t : Token}
    {ts : List Token} (h : tokens (t.text ++ (z ++ v)) = t :: ts) :
    tokens (t.text ++ (z ++ w)) = t :: tokens (z ++ w) ∧ ts = tokens (z ++ v) := by
  have hrest : z ++ v ≠ [] := fun h => hne (List.append_eq_nil_iff.1 h).2
  cases hr : t.text ++ (z ++ v) with
  | nil => exact absurd (List.append_eq_nil_iff.1 hr).2 hrest
  | cons c r =>
    rw [hr, tokens_cons, List.cons.injEq] at h
    obtain ⟨ht, h⟩ := h
    generalize hn : (lexeme (c :: r)).2 - 1 = n at ht h
    -- the text of the token and what is left behind it, as the reading has cut them
    have htext : t.text = c :: r.take n := by rw [← ht]
    rw [htext, List.cons_append, List.cons.injEq] at hr
    have hdrop : r.drop n = z ++ v :=
      List.append_cancel_left ((List.take_append_drop n r).trans hr.2.symm)
    have hlt : n < r.length := by
      by_contra hle
      exact hrest (hdrop.symm.trans (List.drop_eq_nil_of_le (Nat.le_of_not_lt hle)))
    have htake : (r.take n).length = n := List.length_take_of_le (Nat.le_of_lt hlt)
    have hlexeme : lexeme (c :: (r.take n ++ (z ++ w))) = lexeme (c :: r) := by
      have hu : (lexeme (c :: (r.take n ++ z) ++ v)).2 ≤ (c :: (r.take n ++ z)).length := by
        rw [List.cons_append, List.append_assoc, hr.2, List.length_cons, List.length_append, htake]
        omega
      have := lexeme_append hv hne hw hu
      rwa [List.cons_append, List.cons_append, List.append_assoc, List.append_assoc, hr.2] at this
    rw [htext, List.cons_append, tokens_cons, hlexeme, hn, List.take_left' htake, List.drop_left' htake, ht]
    exact ⟨rfl, by rw [← h, hdrop]⟩

/-- Tokens that end before a delimiter do not depend on what stands there and behind it. -/
theorem tokens_append {v w : List Char} (hv : Delimited v) (hne : v ≠ []) (hw : Delimited w)
    {first second : List Token} (h : tokens (textOf first ++ v) = first ++ second) :
    tokens (textOf first ++ w) = first ++ tokens w := by
  induction first with
  | nil => rfl
  | cons t first ih =>
    have htext : ∀ x, textOf (t :: first) ++ x = t.text ++ (textOf first ++ x) := fun _ => List.append_assoc _ _ _
    rw [htext, List.cons_append] at h
    obtain ⟨hfirst, hsecond⟩ := tokens_cons_append hv hne hw h
    rw [htext, hfirst, ih hsecond.symm]
    rfl

end ClassAtlas.Stylesheet
