/-
The word under a cursor, told without counting characters: a longest run of word characters on the
cursor's line such that the column is not before the run and not past the character that follows
it (`Word.Under`). Finding a word finds exactly that (`at?_eq_some_iff`), and since a word has no
blanks and no quotes, the class that a cursor selects is the whole word (`classUnder_eq_some_iff`).
-/
import ClassAtlas.Definition
import ClassAtlas.Proofs.Text.Columns
import Mathlib.Data.List.TakeWhile

namespace ClassAtlas

/-! ## Longest runs -/

/-- A run that satisfies a predicate, between parts that neither end nor start with it. -/
structure LongestRun {α : Type} (p : α → Bool) (left run right : List α) : Prop where
  all : ∀ c ∈ run, p c = true
  left : ∀ c ∈ left.getLast?, p c = false
  right : ∀ c ∈ right.head?, p c = false

theorem takeWhile_run {α : Type} {p : α → Bool} {run right : List α} (hw : ∀ c ∈ run, p c = true)
    (hr : ∀ c ∈ right.head?, p c = false) : (run ++ right).takeWhile p = run := by
  rw [List.takeWhile_append_of_pos hw]
  cases right with
  | nil => simp
  | cons c r => simp [hr c rfl]

theorem head?_dropWhile {α : Type} {p : α → Bool} (cs : List α) :
    ∀ c ∈ (cs.dropWhile p).head?, p c = false := by
  intro c hc
  have := List.head?_dropWhile_not p cs
  rw [Option.mem_def.1 hc] at this
  simpa using this

namespace Word

/-- A word stands between two parts of the line of a position, and the position is on it or touches
it: the column is not before the word, and not past the character behind it, if there is one. -/
structure Stands (document : String) (p : Position) (left word right : List Char) : Prop where
  line : Text.line? document.toList p.line = some (left ++ word ++ right)
  ne_nil : word ≠ []
  run : LongestRun isWordChar left word right
  notBefore : Text.unitCount left ≤ p.column
  notPast : ∀ c ∈ right.head?, p.column < Text.unitCount (left ++ word) + Text.units c

/-- The word that a position of a document is on, or touches on its left. -/
def Under (document : String) (p : Position) (word : List Char) : Prop :=
  ∃ left right, Stands document p left word right

theorem endingRun_run {left run : List Char} (hw : ∀ c ∈ run, isWordChar c = true)
    (hl : ∀ c ∈ left.getLast?, isWordChar c = false) : endingRun (left ++ run) = run := by
  unfold endingRun
  rw [List.reverse_append, takeWhile_run, List.reverse_reverse]
  · intro c hc; exact hw c (List.mem_reverse.1 hc)
  · intro c hc; exact hl c (by rwa [List.head?_reverse] at hc)

/-- A text is what stands before its ending run, and that run. -/
theorem exists_endingRun (cs : List Char) :
    ∃ left, cs = left ++ endingRun cs ∧ (∀ c ∈ endingRun cs, isWordChar c = true) ∧
      ∀ c ∈ left.getLast?, isWordChar c = false := by
  refine ⟨(cs.reverse.dropWhile isWordChar).reverse, ?_, ?_, ?_⟩
  · unfold endingRun
    rw [← List.reverse_append, List.takeWhile_append_dropWhile, List.reverse_reverse]
  · intro c hc
    exact List.mem_takeWhile_imp (List.mem_reverse.1 hc)
  · intro c hc
    rw [List.getLast?_reverse] at hc
    exact head?_dropWhile _ c hc

/-- On one line, the word at an index is the longest run that starts no later and ends no earlier. -/
theorem onLine_eq_some_iff {line : List Char} {index : Nat} (hi : index ≤ line.length) (column : Nat)
    (word : List Char) :
    onLine line index = some (column, word) ↔
      ∃ left right, line = left ++ word ++ right ∧ word ≠ [] ∧ LongestRun isWordChar left word right ∧
        left.length ≤ index ∧ index ≤ (left ++ word).length ∧ column = Text.unitCount left := by
  constructor
  · intro h
    unfold onLine at h
    dsimp only at h
    obtain ⟨left, hl, hl1, hl2⟩ := exists_endingRun (line.take index)
    have hr := List.takeWhile_append_dropWhile (p := isWordChar) (l := line.drop index)
    generalize endingRun (line.take index) = a at h hl hl1
    generalize hb : (line.drop index).takeWhile isWordChar = b at h hr
    split at h
    · cases h
    · next hne =>
      have hlen := congrArg List.length hl
      rw [List.length_take, Nat.min_eq_left hi, List.length_append] at hlen
      simp only [Option.some.injEq, Prod.mk.injEq] at h
      obtain ⟨rfl, rfl⟩ := h
      refine ⟨left, (line.drop index).dropWhile isWordChar, ?_, ?_, ⟨?_, hl2, head?_dropWhile _⟩, by omega,
        by simp only [List.length_append]; omega, ?_⟩
      · rw [← List.append_assoc, ← hl, List.append_assoc, hr, List.take_append_drop]
      · intro hn
        rw [List.append_eq_nil_iff] at hn
        simp [hn.1, hn.2] at hne
      · intro c hc
        rcases List.mem_append.1 hc with hc | hc
        · exact hl1 c hc
        · exact List.mem_takeWhile_imp (hb ▸ hc)
      · have ht : line.take (index - a.length) = (line.take index).take left.length := by
          rw [List.take_take]
          congr 1
          omega
        rw [ht, hl, List.take_left]
  · rintro ⟨left, right, rfl, hne, hrun, h1, h2, rfl⟩
    obtain ⟨k, rfl⟩ := Nat.exists_eq_add_of_le h1
    have hk : k ≤ word.length := by rw [List.length_append] at h2; omega
    have ht : (left ++ word ++ right).take (left.length + k) = left ++ word.take k := by
      rw [List.append_assoc, List.take_length_add_append, List.take_append_of_le_length hk]
    have hd : (left ++ word ++ right).drop (left.length + k) = word.drop k ++ right := by
      rw [List.append_assoc, List.drop_length_add_append, List.drop_append_of_le_length hk]
    have h3 : endingRun (left ++ word.take k) = word.take k :=
      endingRun_run (fun c hc => hrun.all c (List.mem_of_mem_take hc)) hrun.left
    have h4 : (word.drop k ++ right).takeWhile isWordChar = word.drop k :=
      takeWhile_run (fun c hc => hrun.all c (List.mem_of_mem_drop hc)) hrun.right
    unfold onLine
    dsimp only
    rw [ht, hd, h3, h4, if_neg, List.take_append_drop]
    · congr 2
      rw [List.length_take, Nat.min_eq_left hk, Nat.add_sub_cancel, List.append_assoc, List.take_left]
    · intro hn
      simp only [Bool.and_eq_true, List.isEmpty_iff] at hn
      exact hne (by rw [← List.take_append_drop k word, hn.1, hn.2]; rfl)

/-- A word that is found stands under the position, and its span tells where. -/
theorem at?_eq_some_iff {document : String} {p : Position} {w : Word} :
    at? document p = some w ↔ ∃ left right, Stands document p left w.text.toList right ∧
      w.span = ⟨⟨p.line, Text.unitCount left⟩, ⟨p.line, Text.unitCount (left ++ w.text.toList)⟩⟩ := by
  unfold at?
  cases hl : Text.line? document.toList p.line with
  | none =>
    refine ⟨fun h => by simp at h, ?_⟩
    rintro ⟨left, right, h, -⟩
    have hline := h.line
    rw [hl] at hline
    cases hline
  | some line =>
    have hi := Text.indexAt_le_length p.column line
    simp only [Option.bind_eq_bind, Option.bind_some, Option.bind_eq_some_iff, Prod.exists]
    constructor
    · rintro ⟨column, word, h, hw⟩
      cases hw
      obtain ⟨left, right, rfl, hne, hrun, h1, h2, rfl⟩ := (onLine_eq_some_iff hi column word).1 h
      refine ⟨left, right, ⟨by simp [hl], by simpa using hne, by simpa using hrun, ?_, ?_⟩, ?_⟩
      · rw [List.append_assoc] at h1
        exact (Text.le_indexAt_iff _ _ _).1 h1
      · simpa using (Text.indexAt_le_iff _ _ _).1 h2
      · simp [Position.right]
    · rintro ⟨left, right, h, hs⟩
      have hline := h.line
      rw [hl, Option.some.injEq] at hline
      subst hline
      refine ⟨Text.unitCount left, w.text.toList, (onLine_eq_some_iff hi _ _).2
        ⟨left, right, rfl, h.ne_nil, h.run, ?_, ?_, rfl⟩, ?_⟩
      · rw [List.append_assoc]
        exact (Text.le_indexAt_iff _ _ _).2 h.notBefore
      · exact (Text.indexAt_le_iff _ _ _).2 h.notPast
      · obtain ⟨text, span⟩ := w
        simp only at hs
        subst hs
        simp [Position.right]

end Word

/-! ## The class under a cursor -/

namespace ClassList

theorem pieces_plain {cs : List Char} (h : ∀ c ∈ cs, c ≠ ' ') : pieces cs = [cs] := by
  induction cs with
  | nil => rfl
  | cons c r ih =>
    unfold pieces
    rw [if_neg (h c (by simp)), ih (fun d hd => h d (List.mem_cons_of_mem _ hd))]

theorem dropWhile_plain {cs : List Char} (h : ∀ c ∈ cs, isQuote c = false) : cs.dropWhile isQuote = cs := by
  cases cs with
  | nil => rfl
  | cons c r => simp [h c (by simp)]

/-- A list of one name without quotes is that name, wherever the cursor stands. -/
theorem classAt_plain {list : String} (hs : ∀ c ∈ list.toList, c ≠ ' ')
    (hq : ∀ c ∈ list.toList, isQuote c = false) (offset : Nat) : classAt list offset = list := by
  unfold classAt
  dsimp only
  rw [dropWhile_plain hq, dropWhile_plain (fun c hc => hq c (List.mem_reverse.1 hc)), List.reverse_reverse,
    pieces_plain hs]
  exact String.ofList_toList

end ClassList

theorem Word.ne_space_of_isWordChar {c : Char} (h : isWordChar c = true) : c ≠ ' ' := by
  rintro rfl
  exact absurd h (by decide)

theorem Word.not_isQuote_of_isWordChar {c : Char} (h : isWordChar c = true) : ClassList.isQuote c = false := by
  unfold ClassList.isQuote
  rw [Bool.or_eq_false_iff, beq_eq_false_iff_ne, beq_eq_false_iff_ne]
  constructor <;> rintro rfl <;> exact absurd h (by decide)

/-- The class that a position selects is the word under it. -/
theorem Index.classUnder_eq_some_iff {document : String} {p : Position} {name : String} :
    Index.classUnder document p = some name ↔ Word.Under document p name.toList := by
  have hplain : ∀ {left right : List Char} {text : String}, Word.Stands document p left text.toList right →
      ∀ offset, ClassList.classAt text offset = text := fun h offset =>
    ClassList.classAt_plain (fun c hc => Word.ne_space_of_isWordChar (h.run.all c hc))
      (fun c hc => Word.not_isQuote_of_isWordChar (h.run.all c hc)) offset
  unfold Index.classUnder
  simp only [Option.bind_eq_bind, Option.bind_eq_some_iff]
  constructor
  · rintro ⟨w, hw, h⟩
    obtain ⟨left, right, hs, -⟩ := Word.at?_eq_some_iff.1 hw
    rw [hplain hs] at h
    cases h
    exact ⟨left, right, hs⟩
  · rintro ⟨left, right, hs⟩
    refine ⟨⟨name, ⟨p.line, Text.unitCount left⟩, ⟨p.line, Text.unitCount (left ++ name.toList)⟩⟩,
      Word.at?_eq_some_iff.2 ⟨left, right, hs, rfl⟩, ?_⟩
    rw [hplain hs]
    rfl

end ClassAtlas
