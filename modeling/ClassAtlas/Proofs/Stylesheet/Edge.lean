/-
Tokens before an edge. Behind a word there comes a blank, or the comma or bracket that ends a part of a
prelude. Which token starts a word does not depend on what that edge is and what stands behind it, as
long as the token ends inside the word (`lexeme_edge`). Where a token could go on over the edge, as a
name over a space that ends an escape, it does, so that readings that stay inside all agree: each length
is a fixed one, or goes beyond the word (`Settles`).
-/
import ClassAtlas.Proofs.Stylesheet.Joined
import ClassAtlas.Proofs.Text.Words

namespace ClassAtlas.Stylesheet

open Text (isBlank NoBlank)

/-! ## Edges -/

/-- A character that may stand behind a word of a prelude. -/
def isEdge (c : Char) : Bool :=
  isBlank c || c == ',' || c == '\x7b'

/-- A text that starts with an edge. -/
def Edged (x : List Char) : Prop :=
  ∃ d r, x = d :: r ∧ isEdge d = true

theorem isBlank_of_isGap {c : Char} (h : isGap c = true) : isBlank c = true := by
  simp only [isGap, isNewline, Bool.or_eq_true, beq_iff_eq] at h
  rcases h with (rfl | rfl) | (rfl | rfl) | rfl <;> decide

/-- An edge is a control or a space, a comma, a curly bracket, or beyond ASCII. -/
theorem toNat_of_isEdge {c : Char} (h : isEdge c = true) :
    c.toNat ≤ 0x20 ∨ c.toNat = 0x2C ∨ c.toNat = 0x7B ∨ 0x80 ≤ c.toNat := by
  simp only [isEdge, isBlank, Bool.or_eq_true, Bool.and_eq_true, decide_eq_true_eq, beq_iff_eq] at h
  rcases h with (h | rfl) | rfl
  · omega
  · exact .inr (.inl rfl)
  · exact .inr (.inr (.inl rfl))

theorem isDigit_of_isEdge {c : Char} (h : isEdge c = true) : c.isDigit = false := by
  have hn := toNat_of_isEdge h
  rw [Bool.eq_false_iff]
  intro hd
  simp only [Char.isDigit, Bool.and_eq_true, decide_eq_true_eq, ge_iff_le, UInt32.le_iff_toNat_le] at hd
  change 48 ≤ c.toNat ∧ c.toNat ≤ 57 at hd
  omega

theorem isHex_of_isEdge {c : Char} (h : isEdge c = true) : isHex c = false := by
  have hn := toNat_of_isEdge h
  rw [Bool.eq_false_iff]
  intro hx
  simp only [isHex, isDigit_of_isEdge h, Bool.false_or, Bool.or_eq_true, Bool.and_eq_true, decide_eq_true_eq,
    Char.le_def, UInt32.le_iff_toNat_le] at hx
  change (97 ≤ c.toNat ∧ c.toNat ≤ 102) ∨ (65 ≤ c.toNat ∧ c.toNat ≤ 70) at hx
  omega

section Edged

variable {x : List Char} (hx : Edged x)
include hx

theorem Edged.isEdge_of_head : ∀ c ∈ x.head?, isEdge c = true := by
  obtain ⟨d, r, rfl, hd⟩ := hx
  rintro _ ⟨⟩
  exact hd

theorem Edged.head?_ne {c : Char} (hc : isEdge c = false) : x.head? ≠ some c := by
  intro h
  rw [hx.isEdge_of_head c h] at hc
  cases hc

theorem Edged.numberless : Token.Numberless x where
  digit c hc := isDigit_of_isEdge (hx.isEdge_of_head c hc)
  sign c hc := by
    rintro (rfl | rfl)
    · exact hx.head?_ne (by decide) hc
    · exact hx.head?_ne (by decide) hc
  point := hx.head?_ne (by decide)
  exponent c hc := by
    rintro (rfl | rfl)
    · exact hx.head?_ne (by decide) hc
    · exact hx.head?_ne (by decide) hc

end Edged

namespace Token

/-! ## Fixed, or beyond -/

/-- What is read of a text before an edge is fixed, or it is longer than `n`. -/
def Settles {α : Type} (n : Nat) (length : α → Nat) (f : List Char → α) : Prop :=
  ∃ a, ∀ x, Edged x → f x = a ∨ n < length (f x)

section Settles

variable {α β : Type} {n : Nat} {length : α → Nat} {f g : List Char → α}

/-- Two readings that stay inside agree. -/
theorem Settles.eq (h : Settles n length f) {v w : List Char} (hv : Edged v) (hw : Edged w)
    (hfv : length (f v) ≤ n) (hfw : length (f w) ≤ n) : f v = f w := by
  obtain ⟨a, ha⟩ := h
  rw [(ha v hv).resolve_right (Nat.not_lt.2 hfv), (ha w hw).resolve_right (Nat.not_lt.2 hfw)]

theorem Settles.fixed {a : α} (h : ∀ x, Edged x → f x = a) : Settles n length f :=
  ⟨a, fun x hx => .inl (h x hx)⟩

theorem Settles.beyond (a : α) (h : ∀ x, Edged x → n < length (f x)) : Settles n length f :=
  ⟨a, fun x hx => .inr (h x hx)⟩

theorem Settles.congr (h : Settles n length g) (hfg : ∀ x, Edged x → f x = g x) : Settles n length f := by
  obtain ⟨a, ha⟩ := h
  exact ⟨a, fun x hx => by rw [hfg x hx]; exact ha x hx⟩

/-- What is made of a reading settles if it is as long. -/
theorem Settles.map (h : Settles n length f) {m : Nat} {length' : β → Nat} (t : α → β)
    (ht : ∀ a, n < length a → m < length' (t a)) : Settles m length' fun x => t (f x) := by
  obtain ⟨a, ha⟩ := h
  exact ⟨t a, fun x hx => (ha x hx).imp (congrArg t) (ht _)⟩

/-- A choice settles if its condition is fixed, or else holds and leads beyond. -/
theorem Settles.ite {p : List Char → Prop} [DecidablePred p] (q : Prop)
    (hp : ∀ x, Edged x → (p x ↔ q) ∨ p x ∧ n < length (f x)) (hf : q → Settles n length f)
    (hg : ¬ q → Settles n length g) : Settles n length fun x => if p x then f x else g x := by
  by_cases hq : q
  · obtain ⟨a, ha⟩ := hf hq
    refine ⟨a, fun x hx => ?_⟩
    have hpx : p x := (hp x hx).elim (fun h => h.2 hq) And.left
    simp only [if_pos hpx]
    exact ha x hx
  · obtain ⟨a, ha⟩ := hg hq
    refine ⟨a, fun x hx => ?_⟩
    rcases hp x hx with h | ⟨h, hlong⟩
    · have hpx : ¬ p x := fun h' => hq (h.1 h')
      simp only [if_neg hpx]
      exact ha x hx
    · simp only [if_pos h]
      exact .inr hlong

end Settles

/-! ## Names, strings and urls -/

/-- A length of no characters is fixed, or goes beyond them. -/
theorem settles_zero (f : List Char → Nat) : Settles 0 id f :=
  ⟨0, fun x _ => (Nat.eq_zero_or_pos (f x)).imp_right id⟩

theorem Settles.succ {n : Nat} {f : List Char → Nat} (h : Settles n id f) : Settles (n + 1) id fun x => f x + 1 :=
  h.map (· + 1) fun _ => Nat.succ_lt_succ

theorem gapLength_eq_zero {cs : List Char} (h : ∀ c ∈ cs.head?, isGap c = false) : gapLength cs = 0 := by
  cases cs with
  | nil => rfl
  | cons c r =>
    have hc := h c rfl
    have hr : c ≠ '\r' := by rintro rfl; cases hc
    simp [gapLength, hc, hr]

theorem gapLength_pos {c : Char} (hc : isGap c = true) (r : List Char) : 0 < gapLength (c :: r) := by
  unfold gapLength
  split
  · exact Nat.two_pos
  · next hcr =>
    cases hcr
    rw [if_pos hc]
    exact Nat.one_pos
  · next h => cases h

theorem not_isGap_of_noBlank {u : List Char} (hu : NoBlank u) {c : Char} (hc : c ∈ u) : isGap c = false := by
  rw [Bool.eq_false_iff]
  intro hgap
  have hblank := hu c hc
  rw [isBlank_of_isGap hgap] at hblank
  cases hblank

/-- The length of an escape with a character inside the word is fixed, or goes beyond the word. -/
theorem settles_escapeLength {u : List Char} (hu : NoBlank u) (hne : u ≠ []) {x : List Char} (hx : Edged x) :
    escapeLength (u ++ x) = escapeLength u ∨ u.length < escapeLength (u ++ x) := by
  obtain ⟨c, r, rfl⟩ := List.exists_cons_of_ne_nil hne
  have hdigits := escapeDigits_append_of_head (fun d hd => isHex_of_isEdge (hx.isEdge_of_head d hd)) (c :: r)
  have hle : (escapeDigits (c :: r)).length ≤ (c :: r).length :=
    Nat.le_trans (List.takeWhile_prefix _).length_le (List.length_take_le' _ _)
  rw [List.cons_append] at hdigits ⊢
  unfold escapeLength
  rw [hdigits]
  cases hn : (escapeDigits (c :: r)).length with
  | zero => exact .inl rfl
  | succ n =>
    dsimp only
    rw [hn] at hle
    rw [← List.cons_append, List.drop_append_of_le_length hle]
    -- white space may follow the digits where these end the word, and nowhere else
    cases hdrop : (c :: r).drop (n + 1) with
    | cons d s =>
      have hd : isGap d = false := not_isGap_of_noBlank hu (List.mem_of_mem_drop (hdrop ▸ List.mem_cons_self))
      rw [gapLength_eq_zero (by rintro _ ⟨⟩; exact hd), gapLength_eq_zero (by rintro _ ⟨⟩; exact hd)]
      exact .inl rfl
    | nil =>
      have hlength : (c :: r).length ≤ n + 1 := List.drop_eq_nil_iff.1 hdrop
      obtain ⟨d, s, rfl, -⟩ := hx
      rw [List.nil_append]
      cases hd : isGap d with
      | true =>
        have hpos := gapLength_pos hd s
        exact .inr (by omega)
      | false =>
        rw [gapLength_eq_zero (by rintro _ ⟨⟩; exact hd)]
        exact .inl rfl

section Readers

variable {f : Nat → List Char → Nat} (hskip : ∀ n c r, f (n + 1) (c :: r) = f n r + 1)
include hskip

/-- A reader takes at least what it is to skip. -/
theorem min_le_of_skip (n : Nat) (cs : List Char) : min n cs.length ≤ f n cs := by
  induction cs generalizing n with
  | nil => simp
  | cons c r ih =>
    cases n with
    | zero => simp
    | succ n =>
      have hr := ih n
      rw [hskip, List.length_cons]
      omega

/-- A reader that goes on behind a backslash, with the escape to skip. -/
theorem settles_escape {u : List Char} (hu : NoBlank u) (ih : ∀ k, Settles u.length id fun x => f k (u ++ x)) :
    Settles (u.length + 1) id fun x => f (escapeLength (u ++ x)) (u ++ x) + 1 := by
  cases u with
  | nil =>
    -- the escape takes the edge
    refine .beyond 0 fun x hx => ?_
    obtain ⟨d, r, rfl, -⟩ := hx
    obtain ⟨n, hn⟩ := Nat.exists_eq_succ_of_ne_zero (Nat.ne_of_gt (escapeLength_cons_pos d r))
    rw [List.nil_append, hn, hskip, List.length_nil, id]
    omega
  | cons c r =>
    obtain ⟨a, ha⟩ := ih (escapeLength (c :: r))
    refine ⟨a + 1, fun x hx => ?_⟩
    dsimp only
    rcases settles_escapeLength hu (List.cons_ne_nil c r) hx with h | h
    · rw [h]
      exact (ha x hx).imp (congrArg (· + 1)) Nat.succ_lt_succ
    · have hmin := min_le_of_skip hskip (escapeLength (c :: r ++ x)) (c :: r ++ x)
      have hlength : (c :: r).length < (c :: r ++ x).length := by
        obtain ⟨d, s, rfl, -⟩ := hx
        rw [List.length_append, List.length_cons (a := d)]
        omega
      exact .inr (Nat.succ_lt_succ (Nat.lt_of_lt_of_le (Nat.lt_min.2 ⟨h, hlength⟩) hmin))

end Readers

theorem startsNewline_of_noBlank {u : List Char} (hu : NoBlank u) (hne : u ≠ []) (x : List Char) :
    startsNewline (u ++ x) = false := by
  obtain ⟨c, r, rfl⟩ := List.exists_cons_of_ne_nil hne
  have hc := not_isGap_of_noBlank hu List.mem_cons_self
  rw [isGap, Bool.or_eq_false_iff] at hc
  exact hc.2

theorem settles_nameLength {u : List Char} (hu : NoBlank u) (skip : Nat) :
    Settles u.length id fun x => nameLength skip (u ++ x) := by
  induction u generalizing skip with
  | nil => exact settles_zero _
  | cons c u ih =>
    have hu' : NoBlank u := (List.forall_mem_cons.1 hu).2
    have ih := ih hu'
    cases skip with
    | succ n => exact (ih n).succ
    | zero =>
      by_cases hslash : c = '\\'
      · subst hslash
        have hescape := settles_escape (fun _ _ _ => rfl) hu' ih
        cases u with
        | nil =>
          -- a backslash at the end of the word ends the name before a line end, and takes any other edge
          refine ⟨0, fun x hx => ?_⟩
          obtain ⟨d, r, rfl, -⟩ := hx
          cases hline : startsNewline (d :: r) with
          | true => exact .inl (by simp [nameLength, hline])
          | false =>
            obtain ⟨n, hn⟩ := Nat.exists_eq_succ_of_ne_zero (Nat.ne_of_gt (escapeLength_cons_pos d r))
            refine .inr ?_
            simp [nameLength, hline, hn]
        | cons d u =>
          refine hescape.congr fun x _ => ?_
          have hline := startsNewline_of_noBlank hu' (List.cons_ne_nil d u) x
          simp only [List.cons_append] at hline ⊢
          rw [nameLength]
          simp [hline]
      · cases hchar : isNameChar c with
        | true => exact (ih 0).succ.congr fun x _ => by simp [nameLength, hslash, hchar]
        | false => exact .fixed (a := 0) fun x _ => by simp [nameLength, hslash, hchar]

theorem settles_stringLength (quote : Char) {u : List Char} (hu : NoBlank u) (skip : Nat) :
    Settles u.length id fun x => stringLength quote skip (u ++ x) := by
  induction u generalizing skip with
  | nil => exact settles_zero _
  | cons c u ih =>
    have hu' : NoBlank u := (List.forall_mem_cons.1 hu).2
    have ih := ih hu'
    cases skip with
    | succ n => exact (ih n).succ
    | zero =>
      by_cases hquote : c = quote
      · exact .fixed (a := 1) fun x _ => by simp [stringLength, hquote]
      · have hline : isNewline c = false := by
          have hc := not_isGap_of_noBlank hu List.mem_cons_self
          rw [isGap, Bool.or_eq_false_iff] at hc
          exact hc.2
        by_cases hslash : c = '\\'
        · subst hslash
          have hescape := settles_escape (fun _ _ _ => rfl) hu' ih
          cases u with
          | nil =>
            -- a backslash at the end of the word takes the edge
            refine .beyond 0 fun x hx => ?_
            obtain ⟨d, r, rfl, -⟩ := hx
            have hpos : 0 < if startsNewline (d :: r) then gapLength (d :: r) else escapeLength (d :: r) := by
              split
              · next hd => exact gapLength_pos (by rw [isGap, Bool.or_eq_true]; exact .inr hd) r
              · exact escapeLength_cons_pos d r
            obtain ⟨n, hn⟩ := Nat.exists_eq_succ_of_ne_zero (Nat.ne_of_gt hpos)
            simp only [List.cons_append, List.nil_append, stringLength, if_neg hquote, hline, hn, id]
            simp
          | cons d u =>
            refine hescape.congr fun x _ => ?_
            have hcontinued := startsNewline_of_noBlank hu' (List.cons_ne_nil d u) x
            simp only [List.cons_append] at hcontinued ⊢
            rw [stringLength]
            simp [hquote, hline, hcontinued]
        · exact (ih 0).succ.congr fun x _ => by simp [stringLength, hquote, hline, hslash]

theorem urlRest_pos (part : UrlPart) (skip : Nat) (c : Char) (r : List Char) : 0 < urlRest part skip (c :: r) := by
  unfold urlRest
  repeat' split
  all_goals exact Nat.succ_pos _

theorem settles_urlRest {u : List Char} (hu : NoBlank u) (part : UrlPart) (skip : Nat) :
    Settles u.length id fun x => urlRest part skip (u ++ x) := by
  induction u generalizing part skip with
  | nil => exact settles_zero _
  | cons c u ih =>
    have hu' : NoBlank u := (List.forall_mem_cons.1 hu).2
    have ih := ih hu'
    have hgap : isGap c = false := not_isGap_of_noBlank hu List.mem_cons_self
    cases skip with
    | succ n => exact (ih part n).succ
    | zero =>
      by_cases hend : c = ')'
      · exact .fixed (a := 1) fun x _ => by simp [urlRest, hend]
      · cases part with
        | after => exact (ih .wrong 0).succ.congr fun x _ => by simp [urlRest, hend, hgap]
        | wrong =>
          by_cases hslash : c = '\\'
          · subst hslash
            refine (ih .wrong (if u.head? = some ')' ∨ u.head? = some '\\' then 1 else 0)).succ.congr fun x hx => ?_
            have hbracket := head?_append_of_head (hx.head?_ne (c := ')') (by decide)) u
            have hbackslash := head?_append_of_head (hx.head?_ne (c := '\\') (by decide)) u
            simp only [List.cons_append, urlRest, if_neg hend, if_true, hbracket, hbackslash]
          · exact (ih .wrong 0).succ.congr fun x _ => by simp [urlRest, hend, hslash]
        | address =>
          by_cases hslash : c = '\\'
          · subst hslash
            have hescape := settles_escape (fun _ _ _ => rfl) hu' (ih .address)
            cases u with
            | nil =>
              refine .beyond 0 fun x hx => ?_
              obtain ⟨d, r, rfl, -⟩ := hx
              rw [List.singleton_append, urlRest, if_neg hend, if_neg (by rw [hgap]; exact Bool.false_ne_true), if_pos rfl]
              split
              · exact Nat.succ_lt_succ (urlRest_pos _ _ _ _)
              · exact Nat.succ_lt_succ (urlRest_pos _ _ _ _)
            | cons d u =>
              refine hescape.congr fun x _ => ?_
              have hline := startsNewline_of_noBlank hu' (List.cons_ne_nil d u) x
              simp only [List.cons_append] at hline ⊢
              rw [urlRest]
              simp [hgap, hline]
          · cases hbad : isBadInUrl c with
            | true => exact (ih .wrong 0).succ.congr fun x _ => by simp [urlRest, hend, hgap, hslash, hbad]
            | false => exact (ih .address 0).succ.congr fun x _ => by simp [urlRest, hend, hgap, hslash, hbad]

theorem settles_commentLength (u : List Char) : Settles u.length id fun x => commentLength (u ++ x) := by
  induction u with
  | nil => exact settles_zero _
  | cons c u ih =>
    by_cases hc : c = '*' ∧ u.head? = some '/'
    · obtain ⟨rfl, hslash⟩ := hc
      obtain ⟨r, rfl⟩ := List.head?_eq_some_iff.1 hslash
      exact .fixed (a := 2) fun _ _ => rfl
    · refine ih.succ.congr fun x hx => ?_
      have hc' : ¬ (c = '*' ∧ (u ++ x).head? = some '/') := by
        rwa [head?_append_of_head (hx.head?_ne (by decide))]
      rw [List.cons_append, commentLength]
      intro r hstar hr
      exact hc' ⟨hstar, by rw [hr]; rfl⟩

/-! ## Beginnings -/

theorem nameLength_pos {s : List Char} (h : startsName s = true) : 0 < nameLength 0 s := by
  cases s with
  | nil => cases h
  | cons c r =>
    by_cases hslash : c = '\\'
    · subst hslash
      have hline : startsNewline r = false := by simpa [startsName] using h
      simp [nameLength, hline]
    · have hchar : isNameChar c = true := by
        by_cases hminus : c = '-'
        · rw [hminus]
          rfl
        · have hstart : isNameStart c = true := by simpa [startsName, hslash, hminus] using h
          simp [isNameChar, hstart]
      simp [nameLength, hslash, hchar]

/-- Whether a name starts a word is fixed, or else one does and goes beyond the word. -/
theorem startsName_fixed {u : List Char} (hu : NoBlank u) : ∃ b : Bool, ∀ x, Edged x →
    startsName (u ++ x) = b ∨ startsName (u ++ x) = true ∧ u.length < nameLength 0 (u ++ x) := by
  match u, hu with
  | [], _ =>
    refine ⟨false, fun x _ => ?_⟩
    cases h : startsName x with
    | false => exact .inl h
    | true => exact .inr ⟨h, nameLength_pos h⟩
  | [c], _ =>
    by_cases hslash : c = '\\'
    · subst hslash
      refine ⟨false, fun x hx => ?_⟩
      obtain ⟨d, r, rfl, -⟩ := hx
      cases hline : startsNewline (d :: r) with
      | true => exact .inl (by simp [startsName, hline])
      | false =>
        obtain ⟨n, hn⟩ := Nat.exists_eq_succ_of_ne_zero (Nat.ne_of_gt (escapeLength_cons_pos d r))
        exact .inr ⟨by simp [startsName, hline], by simp [nameLength, hline, hn]⟩
    · by_cases hminus : c = '-'
      · subst hminus
        refine ⟨false, fun x hx => ?_⟩
        have hminus := hx.head?_ne (c := '-') (by decide)
        have hbackslash := hx.head?_ne (c := '\\') (by decide)
        obtain ⟨d, r, rfl, -⟩ := hx
        rw [List.head?_cons, ne_eq, Option.some.injEq] at hminus hbackslash
        cases hd : isNameStart d with
        | false => exact .inl (by simp [startsName, hd, hminus, hbackslash])
        | true =>
          have hchar : isNameChar d = true := by simp [isNameChar, hd]
          refine .inr ⟨by simp [startsName, hd], ?_⟩
          rw [List.singleton_append, nameLength, if_neg (by decide), if_pos (by decide), nameLength,
            if_neg hbackslash, if_pos hchar]
          simp
      · exact ⟨isNameStart c, fun x _ => .inl (by simp [startsName, hminus])⟩
  | c :: d :: u, _ =>
    refine ⟨startsName (c :: d :: u), fun x _ => .inl ?_⟩
    by_cases hslash : c = '\\'
    · subst hslash
      rfl
    · by_cases hminus : c = '-'
      · subst hminus
        rfl
      · simp [startsName, hminus]

theorem settles_unitLength {u : List Char} (hu : NoBlank u) : Settles u.length id fun x => unitLength (u ++ x) := by
  cases u with
  | nil => exact settles_zero _
  | cons c u =>
    by_cases hc : c = '%'
    · subst hc
      exact .fixed (a := 1) fun _ _ => rfl
    · obtain ⟨b, hb⟩ := startsName_fixed hu
      have hsettles : Settles (c :: u).length id fun x =>
          if startsName (c :: u ++ x) = true then nameLength 0 (c :: u ++ x) else 0 :=
        .ite (b = true) (fun x hx => (hb x hx).imp (fun h => by rw [h]) id) (fun _ => settles_nameLength hu 0)
          fun _ => .fixed (a := 0) fun _ _ => rfl
      refine hsettles.congr fun x _ => ?_
      unfold unitLength
      split
      · next r hr => exact absurd (List.cons.inj hr).1 hc
      · rfl

theorem settles_numberLength {u : List Char} (hu : NoBlank u) :
    Settles u.length id fun x => numberLength (u ++ x) := by
  have hle := amountLength_le u
  have hdrop : NoBlank (u.drop (amountLength u)) := fun c hc => hu c (List.mem_of_mem_drop hc)
  refine Settles.congr ((settles_unitLength hdrop).map (amountLength u + ·) fun a ha => ?_) fun x hx => ?_
  · rw [List.length_drop] at ha
    simp only [id] at ha ⊢
    omega
  · rw [numberLength_eq, amountLength_append hx.numberless, List.drop_append_of_le_length hle]

/-! ## Names with a bracket -/

theorem settles_urlLength? {u : List Char} (hu : NoBlank u) :
    Settles u.length (·.getD 0) fun x => urlLength? (u ++ x) := by
  cases u with
  | nil =>
    -- an address would take the edge
    refine ⟨none, fun x hx => ?_⟩
    simp only [List.nil_append]
    unfold urlLength?
    dsimp only
    split
    · exact .inl rfl
    · refine .inr ?_
      obtain ⟨d, r, rfl, -⟩ := hx
      rw [List.length_nil, Option.getD_some]
      cases hd : isGap d with
      | true =>
        rw [List.takeWhile_cons_of_pos hd, List.length_cons]
        omega
      | false =>
        rw [List.takeWhile_cons_of_neg (by rw [hd]; exact Bool.false_ne_true), List.length_nil, List.drop_zero]
        exact Nat.lt_of_lt_of_le (urlRest_pos _ _ _ _) (Nat.le_add_left _ _)
  | cons c u =>
    have hgap : ¬ isGap c = true := by
      rw [not_isGap_of_noBlank hu List.mem_cons_self]
      exact Bool.false_ne_true
    have hurl : ∀ x, urlLength? (c :: u ++ x) =
        if c = '"' ∨ c = '\'' then none else some (urlRest .address 0 (c :: u ++ x)) := by
      intro x
      unfold urlLength?
      rw [List.cons_append, List.takeWhile_cons_of_neg hgap]
      simp
    refine Settles.congr ?_ fun x _ => hurl x
    split
    · exact .fixed fun _ _ => rfl
    · exact (settles_urlRest hu .address 0).map some fun _ h => h

theorem nameLength_le_named (s : List Char) : nameLength 0 s ≤ (named s).2 := by
  unfold named
  dsimp only
  split
  · split
    · split <;> dsimp only <;> omega
    · exact Nat.le_succ _
  · exact Nat.le_refl _

theorem settles_named {u : List Char} (hu : NoBlank u) : Settles u.length Prod.snd fun x => named (u ++ x) := by
  obtain ⟨n, hn⟩ : ∃ n, ∀ x, Edged x → nameLength 0 (u ++ x) = n ∨ u.length < nameLength 0 (u ++ x) :=
    settles_nameLength hu 0
  by_cases hle : n ≤ u.length
  · have hdrop : ∀ x, (u ++ x).drop n = u.drop n ++ x := fun _ => List.drop_append_of_le_length hle
    have htake : ∀ x, (u ++ x).take n = u.take n := fun _ => List.take_append_of_le_length hle
    -- the name goes beyond the word, or it ends behind `n` characters and the rest decides
    have hsettles : ∀ {f : List Char → Kind × Nat}, Settles u.length Prod.snd f →
        (∀ x, Edged x → nameLength 0 (u ++ x) = n → named (u ++ x) = f x) →
        Settles u.length Prod.snd fun x => named (u ++ x) := by
      rintro f ⟨l, hl⟩ hf
      refine ⟨l, fun x hx => ?_⟩
      rcases hn x hx with h | h
      · dsimp only
        rw [hf x hx h]
        exact hl x hx
      · exact .inr (Nat.lt_of_lt_of_le h (nameLength_le_named _))
    cases hr : u.drop n with
    | nil =>
      refine hsettles (.fixed (a := (.ident, n)) fun _ _ => rfl) fun x hx h => named_ident h ?_
      rw [hdrop, hr]
      exact hx.head?_ne (by decide)
    | cons c r =>
      by_cases hc : c = '('
      · subst hc
        have hr' : NoBlank r := fun d hd => hu d (List.mem_of_mem_drop (hr ▸ List.mem_cons_of_mem _ hd))
        have hlength : u.length = n + 1 + r.length := by
          have := congrArg List.length hr
          rw [List.length_drop, List.length_cons] at this
          omega
        refine hsettles (f := fun x => if namesKeyword (u.take n) "url" then
            (urlLength? (r ++ x)).elim (.function, n + 1) fun k => (.url, n + 1 + k)
          else (.function, n + 1)) ?_ fun x _ h => ?_
        · split
          · refine (settles_urlLength? hr').map
              (fun k? => k?.elim ((.function, n + 1) : Kind × Nat) fun k => (.url, n + 1 + k)) fun k? hk => ?_
            cases k? with
            | none => cases hk
            | some k =>
              rw [Option.getD_some] at hk
              dsimp only [Option.elim]
              omega
          · exact .fixed fun _ _ => rfl
        · rw [← htake x]
          rw [named_bracket h (r := r ++ x) (by rw [hdrop, hr]; rfl)]
          cases urlLength? (r ++ x) <;> rfl
      · refine hsettles (.fixed (a := (.ident, n)) fun _ _ => rfl) fun x _ h => named_ident h ?_
        rw [hdrop, hr, List.cons_append, List.head?_cons, ne_eq, Option.some.injEq]
        exact hc
  · refine .beyond (.symbol, 0) fun x hx => Nat.lt_of_lt_of_le ?_ (nameLength_le_named _)
    rcases hn x hx with h | h
    · rw [h]
      exact Nat.lt_of_not_le hle
    · exact h

/-! ## Tokens -/

theorem nameLength_pos_of_nameChar {c : Char} (h : isNameChar c = true) (r : List Char) :
    0 < nameLength 0 (c :: r) := by
  have hslash : c ≠ '\\' := by rintro rfl; cases h
  simp [nameLength, hslash, h]

/-- Whether a hash has a name behind it is fixed, or else it has one that goes beyond the word. -/
theorem startsHash_fixed {u : List Char} (hu : NoBlank u) : ∃ b : Bool, ∀ x, Edged x →
    ((u ++ x).head?.any isNameChar || startsName (u ++ x)) = b ∨
    ((u ++ x).head?.any isNameChar || startsName (u ++ x)) = true ∧ u.length < nameLength 0 (u ++ x) := by
  obtain ⟨b, hb⟩ := startsName_fixed hu
  refine ⟨u.head?.any isNameChar || b, fun x hx => ?_⟩
  cases u with
  | nil =>
    obtain ⟨d, r, rfl, -⟩ := id hx
    cases hd : isNameChar d with
    | true => exact .inr ⟨by simp [hd], nameLength_pos_of_nameChar hd r⟩
    | false => simpa [hd] using hb _ hx
  | cons d u =>
    cases hd : isNameChar d with
    | true => exact .inl (by simp [hd])
    | false => simpa [hd] using hb x hx

/-- The token that starts a word is fixed, or it goes beyond the word. -/
theorem settles_lexeme {u : List Char} (hu : NoBlank u) (hne : u ≠ []) :
    Settles u.length Prod.snd fun x => lexeme (u ++ x) := by
  obtain ⟨c, u, rfl⟩ := List.exists_cons_of_ne_nil hne
  have hu' : NoBlank u := (List.forall_mem_cons.1 hu).2
  have hgap : ¬ isGap c = true := by
    rw [not_isGap_of_noBlank hu List.mem_cons_self]
    exact Bool.false_ne_true
  have hhead : ∀ {d x}, isEdge d = false → Edged x → ((u ++ x).head? = some d ↔ u.head? = some d) :=
    fun hd hx => head?_append_of_head (hx.head?_ne hd) u
  have hmark : ∀ {mark x : List Char}, mark.any isEdge = false → Edged x →
      mark.isPrefixOf (c :: (u ++ x)) = mark.isPrefixOf (c :: u) := by
    intro mark x hm hx
    refine isPrefixOf_append_of_head (fun d hd => hx.head?_ne ?_) (c :: u)
    exact Bool.eq_false_iff.2 (List.any_eq_false.1 hm d hd)
  obtain ⟨startsWord, hword⟩ := startsName_fixed hu
  obtain ⟨startsRest, hrest⟩ := startsName_fixed hu'
  obtain ⟨startsHash, hhash⟩ := startsHash_fixed hu'
  have hkeyword : Settles (u.length + 1) Prod.snd fun x => (Kind.atKeyword, nameLength 0 (u ++ x) + 1) :=
    (settles_nameLength hu' 0).map (fun n => (Kind.atKeyword, n + 1)) fun _ => Nat.succ_lt_succ
  have hname : Settles (u.length + 1) Prod.snd fun x => (Kind.hash, nameLength 0 (u ++ x) + 1) :=
    (settles_nameLength hu' 0).map (fun n => (Kind.hash, n + 1)) fun _ => Nat.succ_lt_succ
  simp only [List.cons_append, lexeme, if_neg hgap]
  -- one step for each test of a lexeme, in their order
  refine .ite (c = '"' ∨ c = '\'') (fun _ _ => .inl Iff.rfl) (fun _ => ?_) fun _ => ?_
  · exact (settles_stringLength c hu' 0).map (fun n => (Kind.string, n + 1)) fun _ => Nat.succ_lt_succ
  refine .ite (startsNumber (c :: u) = true) (fun x hx => .inl ?_) (fun _ => ?_) fun _ => ?_
  · rw [← startsNumber_append hx.numberless (c :: u), List.cons_append]
  · exact (settles_numberLength hu).map (Prod.mk Kind.number) fun _ => id
  refine .ite (c = '/' ∧ u.head? = some '*') (fun x hx => .inl ?_) (fun hc => ?_) fun _ => ?_
  · rw [hhead (by decide) hx]
  · obtain ⟨r, rfl⟩ := List.head?_eq_some_iff.1 hc.2
    exact (settles_commentLength r).map (fun n => (Kind.comment, n + 2)) fun _ h => Nat.add_lt_add_right h 2
  refine .ite (['<', '!', '-', '-'].isPrefixOf (c :: u) = true) (fun x hx => .inl ?_)
    (fun _ => .fixed fun _ _ => rfl) fun _ => ?_
  · rw [hmark rfl hx]
  refine .ite (['-', '-', '>'].isPrefixOf (c :: u) = true) (fun x hx => .inl ?_)
    (fun _ => .fixed fun _ _ => rfl) fun _ => ?_
  · rw [hmark rfl hx]
  refine .ite (startsWord = true) (fun x hx => ?_) (fun _ => settles_named hu) fun _ => ?_
  · exact (hword x hx).imp (fun h => by rw [← h, List.cons_append])
      fun h => ⟨h.1, Nat.lt_of_lt_of_le h.2 (nameLength_le_named _)⟩
  refine .ite (c = '@' ∧ startsRest = true) (fun x hx => ?_) (fun _ => hkeyword) fun _ => ?_
  · by_cases hc : c = '@'
    · exact (hrest x hx).imp (fun h => by rw [h]) fun h => ⟨⟨hc, h.1⟩, Nat.succ_lt_succ h.2⟩
    · exact .inl (by simp [hc])
  refine .ite (c = '#' ∧ startsHash = true) (fun x hx => ?_) (fun _ => hname) fun _ => ?_
  · by_cases hc : c = '#'
    · exact (hhash x hx).imp (fun h => by rw [h]) fun h => ⟨⟨hc, h.1⟩, Nat.succ_lt_succ h.2⟩
    · exact .inl (by simp [hc])
  iterate 8 refine .ite _ (fun _ _ => .inl Iff.rfl) (fun _ => .fixed fun _ _ => rfl) fun _ => ?_
  refine .ite (['$', '*', '^', '|', '~'].contains c = true ∧ u.head? = some '=') (fun x hx => .inl ?_)
    (fun _ => .fixed fun _ _ => rfl) fun _ => .fixed fun _ _ => rfl
  rw [hhead (by decide) hx]

/-- A token that ends inside a word does not depend on the edge behind it, if it does so before both. -/
theorem lexeme_edge {u v w : List Char} (hu : NoBlank u) (hne : u ≠ []) (hv : Edged v) (hw : Edged w)
    (huv : (lexeme (u ++ v)).2 ≤ u.length) (huw : (lexeme (u ++ w)).2 ≤ u.length) :
    lexeme (u ++ v) = lexeme (u ++ w) :=
  (settles_lexeme hu hne).eq hv hw huv huw

end Token

end ClassAtlas.Stylesheet
