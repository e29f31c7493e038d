/-
Lengths that end before a delimiter. Semicolons and curly brackets are tokens of their own, and what is
counted up to one of them does not depend on whether it is there: not the length of a number
(`amountLength_append`), and, if the count ends at the delimiter at all, not that of what may go on over
it, such as a string or a url (`Reads.append`).
-/
import ClassAtlas.Stylesheet.Token
import Mathlib.Data.List.TakeDrop

namespace ClassAtlas.Stylesheet

/-- A character that is never part of a longer token but in a string, a comment, a url or an escape. -/
def isDelimiter (c : Char) : Bool :=
  c == ';' || c == '\x7b' || c == '\x7d'

/-- A text that is empty or starts with a delimiter. -/
def Delimited (v : List Char) : Prop :=
  ∀ c ∈ v.head?, isDelimiter c = true

theorem eq_of_isDelimiter {c : Char} (h : isDelimiter c = true) : c = ';' ∨ c = '\x7b' ∨ c = '\x7d' := by
  simpa [isDelimiter, or_assoc] using h

theorem delimited_cons {d : Char} (hd : isDelimiter d = true) (v : List Char) : Delimited (d :: v) := by
  rintro c ⟨⟩
  exact hd

theorem Delimited.take {v : List Char} (hv : Delimited v) (n : Nat) : Delimited (v.take n) := by
  intro c hc
  cases n with
  | zero => cases hc
  | succ n =>
    cases v with
    | nil => cases hc
    | cons d v => exact hv c hc

namespace Token

/-! ## What does not go on -/

section Heads

variable {v : List Char}

theorem takeWhile_append_of_head {p : Char → Bool} (hv : ∀ c ∈ v.head?, p c = false) (u : List Char) :
    (u ++ v).takeWhile p = u.takeWhile p := by
  induction u with
  | nil =>
    cases v with
    | nil => rfl
    | cons d v => exact List.takeWhile_cons_of_neg (by simp [hv d rfl])
  | cons c u ih => rw [List.cons_append, List.takeWhile_cons, List.takeWhile_cons, ih]

theorem head?_append_of_head {c : Char} (hv : v.head? ≠ some c) (u : List Char) :
    (u ++ v).head? = some c ↔ u.head? = some c := by
  cases u with
  | nil => exact ⟨fun h => absurd h hv, nofun⟩
  | cons d u => rfl

theorem isPrefixOf_append_of_head {mark : List Char} (hv : ∀ c ∈ mark, v.head? ≠ some c) (u : List Char) :
    mark.isPrefixOf (u ++ v) = mark.isPrefixOf u := by
  induction mark generalizing u with
  | nil => cases u <;> cases v <;> rfl
  | cons c mark ih =>
    rw [List.forall_mem_cons] at hv
    cases u with
    | cons d u => rw [List.cons_append, List.isPrefixOf, List.isPrefixOf, ih hv.2]
    | nil =>
      cases v with
      | nil => rfl
      | cons d v =>
        have hne : (c == d) = false := beq_eq_false_iff_ne.2 fun h => hv.1 (by rw [h]; rfl)
        rw [List.nil_append, List.isPrefixOf_cons_cons, hne]
        rfl

theorem escapeDigits_append_of_head (hv : ∀ c ∈ v.head?, isHex c = false) (u : List Char) :
    escapeDigits (u ++ v) = escapeDigits u := by
  unfold escapeDigits
  rw [List.take_append]
  refine takeWhile_append_of_head (fun c hc => hv c ?_) _
  cases v with
  | nil => simp at hc
  | cons d v =>
    cases hn : 6 - u.length with
    | zero => rw [hn] at hc; cases hc
    | succ n => rw [hn] at hc; exact hc

end Heads

/-! ## What starts with a delimiter -/

section Delimited

variable {u v : List Char} (hv : Delimited v)
include hv

theorem takeWhile_append_delimited {p : Char → Bool} (hp : ∀ c, isDelimiter c = true → p c = false)
    (u : List Char) :
    (u ++ v).takeWhile p = u.takeWhile p :=
  takeWhile_append_of_head (fun c hc => hp c (hv c hc)) u

theorem head?_ne_of_delimited {c : Char} (hc : isDelimiter c = false) : v.head? ≠ some c := by
  intro h
  rw [hv c h] at hc
  cases hc

theorem head?_append_delimited {c : Char} (hc : isDelimiter c = false) (u : List Char) :
    (u ++ v).head? = some c ↔ u.head? = some c :=
  head?_append_of_head (head?_ne_of_delimited hv hc) u

theorem isPrefixOf_append_delimited {mark : List Char} (hm : ∀ c ∈ mark, isDelimiter c = false)
    (u : List Char) :
    mark.isPrefixOf (u ++ v) = mark.isPrefixOf u :=
  isPrefixOf_append_of_head (fun c hc => head?_ne_of_delimited hv (hm c hc)) u

theorem startsNewline_append (u : List Char) : startsNewline (u ++ v) = startsNewline u := by
  cases u with
  | cons c u => rfl
  | nil =>
    cases v with
    | nil => rfl
    | cons d v => rcases eq_of_isDelimiter (hv d rfl) with rfl | rfl | rfl <;> rfl

theorem startsName_append (u : List Char) : startsName (u ++ v) = startsName u := by
  have hbegin : startsName v = false := by
    cases v with
    | nil => rfl
    | cons d v => rcases eq_of_isDelimiter (hv d rfl) with rfl | rfl | rfl <;> rfl
  cases u with
  | nil => exact hbegin
  | cons c u =>
    by_cases hslash : c = '\\'
    · subst hslash
      exact congrArg (!·) (startsNewline_append hv u)
    · cases u with
      | cons d u => by_cases hc : c = '-' <;> simp [startsName, hc]
      | nil =>
        cases v with
        | nil => rfl
        | cons d v =>
          have hd := eq_of_isDelimiter (hv d rfl)
          by_cases hc : c = '-'
          · subst hc
            rcases hd with rfl | rfl | rfl <;> rfl
          · simp [startsName, hc]

theorem gapLength_append (u : List Char) : gapLength (u ++ v) = gapLength u := by
  cases u with
  | nil =>
    cases v with
    | nil => rfl
    | cons d v => rcases eq_of_isDelimiter (hv d rfl) with rfl | rfl | rfl <;> rfl
  | cons c u =>
    cases u with
    | cons d u => by_cases hc : c = '\r' <;> by_cases hd : d = '\n' <;> simp [gapLength, hc, hd]
    | nil =>
      cases v with
      | nil => rfl
      | cons d v =>
        rcases eq_of_isDelimiter (hv d rfl) with rfl | rfl | rfl <;>
          by_cases hc : c = '\r' <;> simp [gapLength, hc]

theorem escapeDigits_append (u : List Char) : escapeDigits (u ++ v) = escapeDigits u := by
  refine escapeDigits_append_of_head (fun c hc => ?_) u
  rcases eq_of_isDelimiter (hv c hc) with rfl | rfl | rfl <;> rfl

theorem nameLength_delimited : nameLength 0 v = 0 := by
  cases v with
  | nil => rfl
  | cons d v => rcases eq_of_isDelimiter (hv d rfl) with rfl | rfl | rfl <;> rfl

/-- An escape that has a character of its own takes nothing behind it. -/
theorem escapeLength_append {u : List Char} (hu : u ≠ []) : escapeLength (u ++ v) = escapeLength u := by
  cases u with
  | nil => exact absurd rfl hu
  | cons c u =>
    have hdigits := escapeDigits_append hv (c :: u)
    have hle : (escapeDigits (c :: u)).length ≤ (c :: u).length :=
      Nat.le_trans (List.takeWhile_prefix _).length_le (List.length_take_le' _ _)
    rw [List.cons_append] at hdigits ⊢
    unfold escapeLength
    rw [hdigits]
    cases hn : (escapeDigits (c :: u)).length with
    | zero => rfl
    | succ n =>
      dsimp only
      rw [hn] at hle
      rw [← List.cons_append, List.drop_append_of_le_length hle, gapLength_append hv]

end Delimited

/-! ## Numbers -/

theorem digitsLength_le (s : List Char) : digitsLength s ≤ s.length :=
  (List.takeWhile_prefix _).length_le

theorem signLength_le (s : List Char) : signLength s ≤ s.length := by
  cases s with
  | nil => exact Nat.le_refl 0
  | cons c r =>
    rw [signLength]
    split
    · exact Nat.succ_le_succ (Nat.zero_le _)
    · exact Nat.zero_le _

theorem fractionLength_le (s : List Char) : fractionLength s ≤ s.length := by
  unfold fractionLength
  split
  · next r =>
    have := digitsLength_le r
    split
    · exact Nat.zero_le _
    · rw [List.length_cons]; omega
  · exact Nat.zero_le _

theorem exponentLength_le (s : List Char) : exponentLength s ≤ s.length := by
  cases s with
  | nil => exact Nat.le_refl 0
  | cons c r =>
    have hsign := signLength_le r
    have hdigits := digitsLength_le (r.drop (signLength r))
    rw [List.length_drop] at hdigits
    rw [exponentLength, List.length_cons]
    split <;> omega

/-- The length of a number with its sign, fraction and exponent, but without its unit. -/
def amountLength (s : List Char) : Nat :=
  let whole := signLength s + digitsLength (s.drop (signLength s))
  let fraction := whole + fractionLength (s.drop whole)
  fraction + exponentLength (s.drop fraction)

theorem numberLength_eq (s : List Char) :
    numberLength s = amountLength s + unitLength (s.drop (amountLength s)) := rfl

/-- What is counted behind a first part lies in the text with it. -/
theorem add_le_of_le_drop {s : List Char} {k n : Nat} (hk : k ≤ s.length) (hn : n ≤ (s.drop k).length) :
    k + n ≤ s.length := by
  rw [List.length_drop] at hn
  omega

theorem amountLength_le (s : List Char) : amountLength s ≤ s.length := by
  have hwhole := add_le_of_le_drop (signLength_le s) (digitsLength_le _)
  have hfraction := add_le_of_le_drop hwhole (fractionLength_le _)
  exact add_le_of_le_drop hfraction (exponentLength_le _)

/-- A text that does not go on with a part of a number. -/
structure Numberless (v : List Char) : Prop where
  digit : ∀ c ∈ v.head?, c.isDigit = false
  sign : ∀ c ∈ v.head?, ¬ (c = '+' ∨ c = '-')
  point : v.head? ≠ some '.'
  exponent : ∀ c ∈ v.head?, ¬ (c = 'e' ∨ c = 'E')

theorem numberless_of_delimited {v : List Char} (hv : Delimited v) : Numberless v where
  digit c hc := by rcases eq_of_isDelimiter (hv c hc) with rfl | rfl | rfl <;> rfl
  sign c hc := by rcases eq_of_isDelimiter (hv c hc) with rfl | rfl | rfl <;> decide
  point := head?_ne_of_delimited hv rfl
  exponent c hc := by rcases eq_of_isDelimiter (hv c hc) with rfl | rfl | rfl <;> decide

section Numbers

variable {u v : List Char} (hv : Numberless v)
include hv

theorem digitsLength_append (u : List Char) : digitsLength (u ++ v) = digitsLength u := by
  unfold digitsLength
  rw [takeWhile_append_of_head hv.digit]

theorem signLength_append (u : List Char) : signLength (u ++ v) = signLength u := by
  cases u with
  | cons c u => rfl
  | nil =>
    cases v with
    | nil => rfl
    | cons d v => exact if_neg (hv.sign d rfl)

theorem fractionLength_append (u : List Char) : fractionLength (u ++ v) = fractionLength u := by
  cases u with
  | nil =>
    cases v with
    | nil => rfl
    | cons d v =>
      have hd : d ≠ '.' := fun h => hv.point (by rw [h]; rfl)
      simp [fractionLength, hd]
  | cons c u =>
    by_cases hc : c = '.'
    · subst hc
      rw [List.cons_append, fractionLength, fractionLength, digitsLength_append hv]
    · simp [fractionLength, hc]

theorem exponentLength_append (u : List Char) : exponentLength (u ++ v) = exponentLength u := by
  cases u with
  | nil =>
    cases v with
    | nil => rfl
    | cons d v => exact if_neg fun h => hv.exponent d rfl h.1
  | cons c u =>
    rw [List.cons_append, exponentLength, exponentLength, signLength_append hv,
      List.drop_append_of_le_length (signLength_le u), digitsLength_append hv]

theorem amountLength_append (u : List Char) : amountLength (u ++ v) = amountLength u := by
  have hwhole := add_le_of_le_drop (signLength_le u) (digitsLength_le _)
  have hfraction := add_le_of_le_drop hwhole (fractionLength_le _)
  unfold amountLength
  dsimp only
  rw [signLength_append hv, List.drop_append_of_le_length (signLength_le u), digitsLength_append hv,
    List.drop_append_of_le_length hwhole, fractionLength_append hv, List.drop_append_of_le_length hfraction,
    exponentLength_append hv]

theorem startsNumber_append (u : List Char) : startsNumber (u ++ v) = startsNumber u := by
  unfold startsNumber
  dsimp only
  rw [signLength_append hv, List.drop_append_of_le_length (signLength_le u), digitsLength_append hv,
    fractionLength_append hv]

end Numbers

/-! ## What ends before a delimiter -/

/-- How a reader of lengths, which is in some state and may have characters to skip, deals with a character
in front of a text: it stops, or it goes on in another state, perhaps with an escape to skip. It does so
whatever stands behind the text, if only that starts with a delimiter. -/
inductive ReadsOn {σ : Type} (f : σ → Nat → List Char → Nat) (s : σ) (c : Char) (u : List Char) : Prop
  | stop (length : Nat) : (∀ x, Delimited x → f s 0 (c :: (u ++ x)) = length) → ReadsOn f s c u
  | next (s' : σ) (skip : Nat) :
      (∀ x, Delimited x → f s 0 (c :: (u ++ x)) = f s' skip (u ++ x) + 1) → ReadsOn f s c u
  | escape (s' : σ) :
      (∀ x, Delimited x → f s 0 (c :: (u ++ x)) = f s' (escapeLength (u ++ x)) (u ++ x) + 1) →
      ReadsOn f s c u

/-- A reader of lengths, which in each of its states stops at every delimiter or at none. -/
structure Reads {σ : Type} (f : σ → Nat → List Char → Nat) : Prop where
  skip : ∀ s n c r, f s (n + 1) (c :: r) = f s n r + 1
  delimiter : ∀ s, (∀ x, Delimited x → f s 0 x = 0) ∨ ∀ d r, isDelimiter d = true → f s 0 (d :: r) ≠ 0
  on : ∀ s c u, ReadsOn f s c u

/-- A length that ends before a delimiter does not depend on what stands there and behind it. -/
theorem Reads.append {σ : Type} {f : σ → Nat → List Char → Nat} (hf : Reads f) {u v w : List Char}
    (hv : Delimited v) (hne : v ≠ []) (hw : Delimited w) (s : σ) (skip : Nat)
    (h : f s skip (u ++ v) ≤ u.length) :
    f s skip (u ++ w) = f s skip (u ++ v) := by
  obtain ⟨d, v, rfl⟩ := List.exists_cons_of_ne_nil hne
  induction u generalizing s skip with
  | nil =>
    have h := Nat.le_zero.1 h
    cases skip with
    | succ n => exact absurd ((hf.skip s n d v).symm.trans h) (Nat.succ_ne_zero _)
    | zero =>
      rcases hf.delimiter s with hstop | hgo
      · rw [List.nil_append, List.nil_append, hstop _ hv, hstop _ hw]
      · exact absurd h (hgo d v (hv d rfl))
  | cons c u ih =>
    rw [List.cons_append, List.cons_append, List.length_cons] at *
    cases skip with
    | succ n =>
      rw [hf.skip] at h
      rw [hf.skip, hf.skip, ih s n (Nat.le_of_succ_le_succ h)]
    | zero =>
      rcases hf.on s c u with ⟨k, hk⟩ | ⟨s', n, hn⟩ | ⟨s', he⟩
      · rw [hk _ hv, hk _ hw]
      · rw [hn _ hv] at h
        rw [hn _ hv, hn _ hw, ih s' n (Nat.le_of_succ_le_succ h)]
      · rw [he _ hv] at h
        have h := Nat.le_of_succ_le_succ h
        -- an escape without a character of its own would take the delimiter
        have hu : u ≠ [] := by
          rintro rfl
          obtain ⟨n, hn⟩ := Nat.exists_eq_succ_of_ne_zero (Nat.ne_of_gt (escapeLength_cons_pos d v))
          rw [List.nil_append, hn, hf.skip] at h
          exact Nat.not_succ_le_zero _ h
        have hescape : escapeLength (u ++ w) = escapeLength (u ++ d :: v) := by
          rw [escapeLength_append hw hu, escapeLength_append hv hu]
        rw [he _ hv, he _ hw, hescape, ih s' _ h]

theorem reads_nameLength : Reads fun _ : Unit => nameLength where
  skip _ _ _ _ := rfl
  delimiter _ := .inl fun _ hx => nameLength_delimited hx
  on _ c u := by
    by_cases hslash : c = '\\'
    · subst hslash
      cases hline : startsNewline u with
      | true => exact .stop 0 fun x hx => by simp [nameLength, startsNewline_append hx, hline]
      | false => exact .escape () fun x hx => by simp [nameLength, startsNewline_append hx, hline]
    · cases hchar : isNameChar c with
      | true => exact .next () 0 fun x _ => by simp [nameLength, hslash, hchar]
      | false => exact .stop 0 fun x _ => by simp [nameLength, hslash, hchar]

theorem reads_stringLength {quote : Char} (hq : isDelimiter quote = false) :
    Reads fun _ : Unit => stringLength quote where
  skip _ _ _ _ := rfl
  delimiter _ := .inr fun d r hd => by
    have hne : d ≠ quote := by
      rintro rfl
      rw [hd] at hq
      cases hq
    rcases eq_of_isDelimiter hd with rfl | rfl | rfl <;> simp [stringLength, isNewline, hne]
  on _ c u := by
    by_cases hquote : c = quote
    · exact .stop 1 fun x _ => by simp [stringLength, hquote]
    · cases hline : isNewline c with
      | true => exact .stop 0 fun x _ => by simp [stringLength, hquote, hline]
      | false =>
        by_cases hslash : c = '\\'
        · subst hslash
          cases hcontinued : startsNewline u with
          | true =>
            exact .next () (gapLength u) fun x hx => by
              simp [stringLength, hquote, hline, startsNewline_append hx, gapLength_append hx, hcontinued]
          | false =>
            exact .escape () fun x hx => by
              simp [stringLength, hquote, hline, startsNewline_append hx, hcontinued]
        · exact .next () 0 fun x _ => by simp [stringLength, hquote, hline, hslash]

theorem reads_urlRest : Reads urlRest where
  skip _ _ _ _ := rfl
  delimiter part := .inr fun d r hd => by
    rcases eq_of_isDelimiter hd with rfl | rfl | rfl <;> cases part <;>
      simp [urlRest, isGap, isNewline, isBadInUrl]
  on part c u := by
    by_cases hend : c = ')'
    · exact .stop 1 fun x _ => by simp [urlRest, hend]
    · cases part with
      | after =>
        cases hgap : isGap c with
        | true => exact .next .after 0 fun x _ => by simp [urlRest, hend, hgap]
        | false => exact .next .wrong 0 fun x _ => by simp [urlRest, hend, hgap]
      | wrong =>
        by_cases hslash : c = '\\'
        · subst hslash
          refine .next .wrong (if u.head? = some ')' ∨ u.head? = some '\\' then 1 else 0) fun x hx => ?_
          have hbracket := head?_append_delimited hx (c := ')') rfl u
          have hbackslash := head?_append_delimited hx (c := '\\') rfl u
          simp only [urlRest, if_neg hend, if_true, hbracket, hbackslash]
        · exact .next .wrong 0 fun x _ => by simp [urlRest, hend, hslash]
      | address =>
        cases hgap : isGap c with
        | true => exact .next .after 0 fun x _ => by simp [urlRest, hend, hgap]
        | false =>
          by_cases hslash : c = '\\'
          · subst hslash
            cases hline : startsNewline u with
            | true =>
              exact .next .wrong 0 fun x hx => by simp [urlRest, hgap, startsNewline_append hx, hline]
            | false =>
              exact .escape .address fun x hx => by simp [urlRest, hgap, startsNewline_append hx, hline]
          · cases hbad : isBadInUrl c with
            | true => exact .next .wrong 0 fun x _ => by simp [urlRest, hend, hgap, hslash, hbad]
            | false => exact .next .address 0 fun x _ => by simp [urlRest, hend, hgap, hslash, hbad]

end Token

end ClassAtlas.Stylesheet
