/-
Words of a text. A squeezed text has the words of the text (`words_squeeze`), so that two texts are
squeezed to the same exactly if they have the same words (`squeeze_inj`), and all characters but the
blanks stay (`filter_squeeze`). Texts with the same words are the same but for the amounts of their
blanks, which is told character by character (`Alike`).
-/
import ClassAtlas.Text.Blank
import Mathlib.Data.List.TakeWhile

namespace ClassAtlas.Text

/-- A text of blanks only. -/
def AllBlank (cs : List Char) : Prop :=
  ∀ c ∈ cs, isBlank c = true

/-- A text without any blank. -/
def NoBlank (cs : List Char) : Prop :=
  ∀ c ∈ cs, isBlank c = false

/-- A text that ends, or goes on with a blank. -/
def EndsWord (cs : List Char) : Prop :=
  ∀ c ∈ cs.head?, isBlank c = true

/-! ## Words -/

@[simp] theorem words_nil : words [] = [] := rfl

theorem words_cons (c : Char) (r : List Char) :
    words (c :: r) = if isBlank c then words r else
      match r, words r with
      | d :: _, w :: ws => if isBlank d then [c] :: w :: ws else (c :: w) :: ws
      | _, _ => [[c]] := rfl

theorem words_blank {c : Char} (hc : isBlank c = true) (r : List Char) : words (c :: r) = words r := by
  rw [words_cons, if_pos hc]

/-- Blanks in front of a text belong to no word. -/
theorem words_append {x : List Char} (hx : AllBlank x) (r : List Char) : words (x ++ r) = words r := by
  induction x with
  | nil => rfl
  | cons c x ih =>
    obtain ⟨hc, hx⟩ := List.forall_mem_cons.1 hx
    rw [List.cons_append, words_blank hc, ih hx]

theorem words_allBlank {cs : List Char} (h : AllBlank cs) : words cs = [] := by
  have hwords := words_append h []
  rwa [List.append_nil] at hwords

/-- The first word of a text that starts with one. -/
theorem words_word {w r : List Char} (hw : NoBlank w) (hne : w ≠ []) (hr : EndsWord r) :
    words (w ++ r) = w :: words r := by
  induction w with
  | nil => exact absurd rfl hne
  | cons c w ih =>
    obtain ⟨hc, hw⟩ := List.forall_mem_cons.1 hw
    have hc' : ¬ isBlank c = true := by rw [hc]; exact Bool.false_ne_true
    cases w with
    | nil =>
      rw [List.singleton_append, words_cons, if_neg hc']
      cases r with
      | nil => rfl
      | cons d r =>
        cases hwords : words (d :: r) with
        | nil => rfl
        | cons v vs => simp [hr d rfl]
    | cons d w =>
      have hd : isBlank d = false := hw d List.mem_cons_self
      have hrest := ih hw (List.cons_ne_nil _ _)
      rw [List.cons_append] at hrest
      rw [List.cons_append, List.cons_append, words_cons, if_neg hc', hrest]
      simp [hd]

/-- A word that stands alone. -/
theorem words_alone {w : List Char} (hw : NoBlank w) (hne : w ≠ []) : words w = [w] := by
  have hwords := words_word hw hne (r := []) nofun
  rwa [List.append_nil] at hwords

theorem endsWord_dropWhile (cs : List Char) : EndsWord (cs.dropWhile fun c => !isBlank c) := by
  intro c hc
  have hhead := List.head?_dropWhile_not (fun c => !isBlank c) cs
  rw [Option.mem_def.1 hc] at hhead
  simpa using hhead

theorem allBlank_takeWhile (cs : List Char) : AllBlank (cs.takeWhile isBlank) :=
  fun c hc => List.all_eq_true.1 List.all_takeWhile c hc

theorem noBlank_takeWhile (cs : List Char) : NoBlank (cs.takeWhile fun c => !isBlank c) := by
  intro c hc
  have hall := List.all_eq_true.1 List.all_takeWhile c hc
  simpa using hall

/-- A text is blank, or it starts with a word behind some blanks. -/
theorem allBlank_or_exists_word (cs : List Char) :
    AllBlank cs ∨ ∃ x w r, cs = x ++ (w ++ r) ∧ AllBlank x ∧ NoBlank w ∧ w ≠ [] ∧ EndsWord r := by
  have hsplit := List.takeWhile_append_dropWhile (p := isBlank) (l := cs)
  cases hrest : cs.dropWhile isBlank with
  | nil =>
    rw [hrest, List.append_nil] at hsplit
    exact .inl (hsplit ▸ allBlank_takeWhile cs)
  | cons c r =>
    have hc : isBlank c = false := by
      have hhead := List.head?_dropWhile_not isBlank cs
      rw [hrest] at hhead
      simpa using hhead
    refine .inr ⟨_, (c :: r).takeWhile fun c => !isBlank c, (c :: r).dropWhile fun c => !isBlank c, ?_,
      allBlank_takeWhile cs, noBlank_takeWhile _, ?_, endsWord_dropWhile _⟩
    · rw [List.takeWhile_append_dropWhile, ← hrest, hsplit]
    · rw [List.takeWhile_cons_of_pos (by rw [hc]; rfl)]
      exact List.cons_ne_nil _ _

theorem words_eq_nil_iff {cs : List Char} : words cs = [] ↔ AllBlank cs := by
  refine ⟨fun h => ?_, words_allBlank⟩
  rcases allBlank_or_exists_word cs with hblank | ⟨x, w, r, rfl, hx, hw, hne, hr⟩
  · exact hblank
  · rw [words_append hx, words_word hw hne hr] at h
    cases h

/-- Where the first word of a text stands. -/
theorem exists_of_words_cons {cs w : List Char} {ws : List (List Char)} (h : words cs = w :: ws) :
    ∃ x r, cs = x ++ (w ++ r) ∧ AllBlank x ∧ NoBlank w ∧ w ≠ [] ∧ EndsWord r ∧ words r = ws := by
  rcases allBlank_or_exists_word cs with hblank | ⟨x, v, r, rfl, hx, hv, hne, hr⟩
  · rw [words_allBlank hblank] at h
    cases h
  · rw [words_append hx, words_word hv hne hr, List.cons.injEq] at h
    obtain ⟨rfl, rfl⟩ := h
    exact ⟨x, r, rfl, hx, hv, hne, hr, rfl⟩

/-! ## Squeezing -/

/-- Words with single spaces between them are the words again. -/
theorem words_squeeze (cs : List Char) : words (squeeze cs) = words cs := by
  unfold squeeze
  induction hws : words cs generalizing cs with
  | nil => rfl
  | cons w ws ih =>
    obtain ⟨x, r, -, -, hw, hne, -, hr⟩ := exists_of_words_cons hws
    have hrest := ih r hr
    cases ws with
    | nil => rw [List.intercalate_singleton, words_alone hw hne]
    | cons v vs =>
      have hspace : isBlank ' ' = true := by decide
      rw [List.intercalate_cons_cons, List.append_assoc, words_word hw hne, List.singleton_append,
        words_blank hspace, hrest]
      rintro c ⟨⟩
      exact hspace

theorem squeeze_inj {a b : List Char} : squeeze a = squeeze b ↔ words a = words b := by
  refine ⟨fun h => ?_, fun h => by rw [squeeze, squeeze, h]⟩
  rw [← words_squeeze a, h, words_squeeze]

theorem squeeze_append {x : List Char} (hx : AllBlank x) (r : List Char) : squeeze (x ++ r) = squeeze r := by
  rw [squeeze_inj, words_append hx]

/-- What starts with a word starts with the same character when it is squeezed. -/
theorem head?_squeeze {c : Char} (hc : isBlank c = false) (r : List Char) : (squeeze (c :: r)).head? = some c := by
  have htake : ((c :: r).takeWhile fun c => !isBlank c) = c :: r.takeWhile fun c => !isBlank c := by
    rw [List.takeWhile_cons, hc]
    rfl
  have hwords := words_word (noBlank_takeWhile (c :: r)) (by rw [htake]; exact List.cons_ne_nil _ _)
    (endsWord_dropWhile (c :: r))
  rw [List.takeWhile_append_dropWhile, htake] at hwords
  rw [squeeze, hwords]
  cases words ((c :: r).dropWhile fun c => !isBlank c) with
  | nil => rfl
  | cons w ws => rw [List.intercalate_cons_cons]; rfl

theorem filter_of_allBlank {cs : List Char} (h : AllBlank cs) : (cs.filter fun c => !isBlank c) = [] := by
  rw [List.filter_eq_nil_iff]
  intro c hc
  simp [h c hc]

theorem filter_of_noBlank {cs : List Char} (h : NoBlank cs) : (cs.filter fun c => !isBlank c) = cs := by
  rw [List.filter_eq_self]
  intro c hc
  simp [h c hc]

/-- The words of a text hold its characters that are not blank. -/
theorem flatten_words (cs : List Char) : (words cs).flatten = cs.filter fun c => !isBlank c := by
  induction hws : words cs generalizing cs with
  | nil => rw [filter_of_allBlank (words_eq_nil_iff.1 hws), List.flatten_nil]
  | cons w ws ih =>
    obtain ⟨x, r, rfl, hx, hw, -, -, hr⟩ := exists_of_words_cons hws
    rw [List.flatten_cons, ih r hr, List.filter_append, List.filter_append, filter_of_allBlank hx,
      filter_of_noBlank hw, List.nil_append]

/-- Squeezing a text takes away blanks only. -/
theorem filter_squeeze (cs : List Char) :
    ((squeeze cs).filter fun c => !isBlank c) = cs.filter fun c => !isBlank c := by
  rw [← flatten_words, words_squeeze, flatten_words]

/-- A text is squeezed to a word exactly if it is this word with blanks around it. -/
theorem squeeze_eq_word_iff {cs w : List Char} (hw : NoBlank w) (hne : w ≠ []) :
    squeeze cs = w ↔ ∃ x y, AllBlank x ∧ AllBlank y ∧ cs = x ++ (w ++ y) := by
  constructor
  · intro h
    have hwords : words cs = [w] := by rw [← words_squeeze, h, words_alone hw hne]
    obtain ⟨x, y, rfl, hx, -, -, -, hy⟩ := exists_of_words_cons hwords
    exact ⟨x, y, hx, words_eq_nil_iff.1 hy, rfl⟩
  · rintro ⟨x, y, hx, hy, rfl⟩
    have hend : EndsWord y := fun c hc => hy c (List.mem_of_mem_head? hc)
    rw [squeeze, words_append hx, words_word hw hne hend, words_allBlank hy, List.intercalate_singleton]

/-! ## Texts that differ in their blanks -/

/-- Two texts are alike if they are the same but for the amounts of the blanks between and behind their
words. -/
inductive Alike : List Char → List Char → Prop
  | blank {a b : List Char} : AllBlank a → AllBlank b → Alike a b
  | char {c : Char} {a b : List Char} : isBlank c = false → Alike a b → Alike (c :: a) (c :: b)
  | gap {x y a b : List Char} : AllBlank x → x ≠ [] → AllBlank y → y ≠ [] → Alike a b →
      Alike (x ++ a) (y ++ b)

theorem Alike.symm {a b : List Char} (h : Alike a b) : Alike b a := by
  induction h with
  | blank ha hb => exact .blank hb ha
  | char hc _ ih => exact .char hc ih
  | gap hx hxne hy hyne _ ih => exact .gap hy hyne hx hxne ih

theorem Alike.word {w a b : List Char} (hw : NoBlank w) (h : Alike a b) : Alike (w ++ a) (w ++ b) := by
  induction w with
  | nil => exact h
  | cons c w ih =>
    obtain ⟨hc, hw⟩ := List.forall_mem_cons.1 hw
    exact .char hc (ih hw)

/-- What is alike goes on alike behind a character that is not blank. -/
theorem Alike.of_cons {c : Char} {a b : List Char} (hc : isBlank c = false) (h : Alike (c :: a) b) :
    ∃ b', b = c :: b' ∧ Alike a b' := by
  generalize hca : c :: a = s at h
  cases h with
  | blank ha _ =>
    subst hca
    rw [ha c List.mem_cons_self] at hc
    cases hc
  | char _ h =>
    cases hca
    exact ⟨_, rfl, h⟩
  | @gap x _ _ _ hx hxne _ _ _ =>
    obtain ⟨d, x, rfl⟩ := List.exists_cons_of_ne_nil hxne
    rw [List.cons_append, List.cons.injEq] at hca
    rw [hca.1, hx d List.mem_cons_self] at hc
    cases hc

theorem Alike.of_word {w a b : List Char} (hw : NoBlank w) (h : Alike (w ++ a) b) :
    ∃ b', b = w ++ b' ∧ Alike a b' := by
  induction w generalizing b with
  | nil => exact ⟨b, rfl, h⟩
  | cons c w ih =>
    obtain ⟨hc, hw⟩ := List.forall_mem_cons.1 hw
    obtain ⟨b', rfl, h'⟩ := h.of_cons hc
    obtain ⟨b'', rfl, h''⟩ := ih hw h'
    exact ⟨b'', rfl, h''⟩

/-- Blanks at the start do not matter to what is alike behind them. -/
theorem Alike.dropWhile {a b : List Char} (h : Alike a b) :
    Alike (a.dropWhile isBlank) (b.dropWhile isBlank) := by
  induction h with
  | blank ha hb =>
    rw [List.dropWhile_eq_nil_iff.2 ha, List.dropWhile_eq_nil_iff.2 hb]
    exact .blank nofun nofun
  | @char c _ _ hc h _ =>
    have hc' : ¬ isBlank c = true := by rw [hc]; exact Bool.false_ne_true
    rw [List.dropWhile_cons_of_neg hc', List.dropWhile_cons_of_neg hc']
    exact .char hc h
  | gap hx _ hy _ _ ih => rwa [List.dropWhile_append_of_pos hx, List.dropWhile_append_of_pos hy]

/-- What is like a text of blanks is one. -/
theorem Alike.allBlank {a b : List Char} (h : Alike a b) (ha : AllBlank a) : AllBlank b := by
  induction h with
  | blank _ hb => exact hb
  | @char c _ _ hc _ _ =>
    rw [ha c List.mem_cons_self] at hc
    cases hc
  | gap _ _ hy _ _ ih =>
    exact List.forall_mem_append.2 ⟨hy, ih (List.forall_mem_append.1 ha).2⟩

/-- Where one text starts with a blank, so does what is alike, or it ends. -/
theorem Alike.endsWord {a b : List Char} (h : Alike a b) (ha : EndsWord a) : EndsWord b := by
  cases h with
  | blank _ hb => exact fun c hc => hb c (List.mem_of_mem_head? hc)
  | @char c _ _ hc _ =>
    rw [ha c rfl] at hc
    cases hc
  | @gap _ y _ _ _ _ hy hyne _ =>
    obtain ⟨d, y, rfl⟩ := List.exists_cons_of_ne_nil hyne
    rintro c ⟨⟩
    exact hy _ List.mem_cons_self

theorem dropWhile_of_noBlank {w : List Char} (hw : NoBlank w) (hne : w ≠ []) (r : List Char) :
    (w ++ r).dropWhile isBlank = w ++ r := by
  obtain ⟨c, w, rfl⟩ := List.exists_cons_of_ne_nil hne
  rw [List.cons_append, List.dropWhile_cons_of_neg]
  rw [hw c List.mem_cons_self]
  exact Bool.false_ne_true

/-- Texts with the same words are alike from their first words on. -/
theorem alike_of_words {a b : List Char} (h : words a = words b) :
    Alike (a.dropWhile isBlank) (b.dropWhile isBlank) := by
  induction hws : words a generalizing a b with
  | nil =>
    rw [List.dropWhile_eq_nil_iff.2 (words_eq_nil_iff.1 hws),
      List.dropWhile_eq_nil_iff.2 (words_eq_nil_iff.1 (h ▸ hws))]
    exact .blank nofun nofun
  | cons w ws ih =>
    obtain ⟨x, r, rfl, hx, hw, hne, hr, hrws⟩ := exists_of_words_cons hws
    obtain ⟨y, s, rfl, hy, -, -, hs, hsws⟩ := exists_of_words_cons (h ▸ hws)
    have hrest : Alike (r.dropWhile isBlank) (s.dropWhile isBlank) := ih (hrws.trans hsws.symm) hrws
    rw [List.dropWhile_append_of_pos hx, List.dropWhile_append_of_pos hy, dropWhile_of_noBlank hw hne,
      dropWhile_of_noBlank hw hne]
    refine .word hw ?_
    -- both texts end behind the word, or go on with blanks
    cases r with
    | nil => exact .blank nofun (words_eq_nil_iff.1 (hsws.trans hrws.symm))
    | cons c r =>
      cases s with
      | nil => exact .blank (words_eq_nil_iff.1 (hrws.trans hsws.symm)) nofun
      | cons d s =>
        rw [← List.takeWhile_append_dropWhile (p := isBlank) (l := c :: r),
          ← List.takeWhile_append_dropWhile (p := isBlank) (l := d :: s)]
        refine .gap (allBlank_takeWhile _) ?_ (allBlank_takeWhile _) ?_ hrest
        · rw [List.takeWhile_cons_of_pos (hr c rfl)]
          exact List.cons_ne_nil _ _
        · rw [List.takeWhile_cons_of_pos (hs d rfl)]
          exact List.cons_ne_nil _ _

end ClassAtlas.Text
