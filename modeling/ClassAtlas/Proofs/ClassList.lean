/-
The class that a cursor selects in a class list. What stands between the outer quotes is split at single spaces, and the
piece that is selected is the one with as many spaces in front of it as there are in front of the cursor; it stands
between spaces or ends, and the cursor is in it or touches it. More quotes around the list change nothing, if the cursor
is moved by those in front (`selects_classAt`).
-/
import ClassAtlas.Proofs.Split
import ClassAtlas.Proofs.Word

namespace ClassAtlas.ClassList

/-! ## Pieces -/

/-- The pieces are those between single spaces. -/
theorem pieces_eq_splitOn (cs : List Char) : pieces cs = cs.splitOn ' ' := by
  refine eq_splitOn rfl (fun r => if_pos rfl) (fun c r p ps hc hr => ?_) cs
  rw [pieces, if_neg hc, hr]

theorem pieces_ne_nil (cs : List Char) : pieces cs ≠ [] := by
  rw [pieces_eq_splitOn]
  exact List.splitOn_ne_nil _ _

theorem intercalate_pieces (cs : List Char) : [' '].intercalate (pieces cs) = cs := by
  rw [pieces_eq_splitOn, List.intercalate_splitOn]

theorem space_not_mem {cs p : List Char} (hp : p ∈ pieces cs) : ' ' ∉ p := by
  rw [pieces_eq_splitOn] at hp
  exact not_mem_of_mem_splitOn hp

/-! ## The piece at an offset -/

/-- A text around one of its pieces, and an offset that is in the piece or at one of its ends; only behind the last
piece there may be an offset that is past it. -/
structure Cut (ps : List (List Char)) (offset : Nat) (left piece right : List Char) : Prop where
  eq : [' '].intercalate ps = left ++ piece ++ right
  number : ps[left.count ' ']? = some piece
  run : LongestRun (· != ' ') left piece right
  reached : left.length ≤ offset
  notPassed : right ≠ [] → offset ≤ (left ++ piece).length

/-- A piece further on, seen from the pieces before it. -/
theorem Cut.cons {p q left piece right : List Char} {qs : List (List Char)} {offset : Nat}
    (h : Cut (q :: qs) (offset - (p.length + 1)) left piece right) (hp : ' ' ∉ p) (hoffset : ¬ offset ≤ p.length) :
    Cut (p :: q :: qs) offset (p ++ ' ' :: left) piece right := by
  have hcount : p.count ' ' = 0 := List.count_eq_zero.2 hp
  have hreached := h.reached
  have hlength : (p ++ ' ' :: left).length = p.length + 1 + left.length := by
    rw [List.length_append, List.length_cons]
    omega
  refine ⟨?_, ?_, ⟨h.run.all, fun c hc => ?_, h.run.right⟩, by omega, fun hright => ?_⟩
  · rw [List.intercalate_cons_cons, h.eq]
    simp
  · rw [List.count_append, hcount, List.count_cons_self, Nat.zero_add, List.getElem?_cons_succ]
    exact h.number
  · -- the character in front of the piece is the space behind the first one, or stands further on
    rw [List.getLast?_append, List.getLast?_cons, Option.some_or] at hc
    cases hlast : left.getLast? with
    | none =>
      rw [hlast] at hc
      cases hc
      rfl
    | some d =>
      rw [hlast] at hc
      exact h.run.left c (hlast.trans hc)
  · have hnotPassed := h.notPassed hright
    rw [List.length_append] at hnotPassed ⊢
    omega

/-- The piece that is selected, and what stands on either side of it. -/
theorem exists_cut {ps : List (List Char)} (hne : ps ≠ []) (hplain : ∀ p ∈ ps, ' ' ∉ p) (offset : Nat) :
    ∃ left right, Cut ps offset left (pieceAt ps offset) right := by
  have hall : ∀ p ∈ ps, ∀ c ∈ p, (c != ' ') = true := by
    intro p hp c hc
    refine bne_iff_ne.2 ?_
    rintro rfl
    exact hplain p hp hc
  fun_induction pieceAt ps offset with
  | case1 => exact absurd rfl hne
  | case2 p =>
    exact ⟨[], [], by simp, rfl, ⟨hall p List.mem_cons_self, by simp, by simp⟩, Nat.zero_le _, fun h => absurd rfl h⟩
  | case3 p q qs offset hoffset =>
    refine ⟨[], ' ' :: [' '].intercalate (q :: qs), ?_, rfl, ⟨hall p List.mem_cons_self, by simp, by simp⟩,
      Nat.zero_le _, fun _ => hoffset⟩
    rw [List.intercalate_cons_cons]
    simp
  | case4 p q qs offset hoffset ih =>
    obtain ⟨left, right, hcut⟩ := ih (List.cons_ne_nil _ _) (fun p hp => hplain p (List.mem_cons_of_mem _ hp))
      fun p hp => hall p (List.mem_cons_of_mem _ hp)
    exact ⟨p ++ ' ' :: left, right, hcut.cons (hplain p List.mem_cons_self) hoffset⟩

/-! ## The class at an offset -/

/-- A list with the quotes around it. -/
structure InQuotes (list before inner behind : List Char) : Prop where
  eq : list = before ++ inner ++ behind
  quotesBefore : ∀ c ∈ before, isQuote c = true
  quotesBehind : ∀ c ∈ behind, isQuote c = true
  first : ∀ c ∈ inner.head?, isQuote c = false
  last : ∀ c ∈ inner.getLast?, isQuote c = false

theorem exists_inQuotes (list : List Char) : ∃ before inner behind, InQuotes list before inner behind := by
  have hbefore := List.takeWhile_append_dropWhile (p := isQuote) (l := list)
  generalize hrest : list.dropWhile isQuote = rest at hbefore
  have hbehind := List.takeWhile_append_dropWhile (p := isQuote) (l := rest.reverse)
  rw [← List.reverse_inj, List.reverse_append, List.reverse_reverse] at hbehind
  refine ⟨list.takeWhile isQuote, (rest.reverse.dropWhile isQuote).reverse, (rest.reverse.takeWhile isQuote).reverse,
    ⟨?_, fun c hc => List.mem_takeWhile_imp hc, fun c hc => List.mem_takeWhile_imp (List.mem_reverse.1 hc),
      fun c hc => ?_, fun c hc => ?_⟩⟩
  · rw [List.append_assoc, hbehind, hbefore]
  · refine head?_dropWhile (p := isQuote) list c ?_
    rw [hrest, ← hbehind, List.head?_append, Option.mem_def.1 hc]
    rfl
  · rw [List.getLast?_reverse] at hc
    exact head?_dropWhile _ c hc

theorem dropWhile_of_head? {cs : List Char} (h : ∀ c ∈ cs.head?, isQuote c = false) : cs.dropWhile isQuote = cs := by
  cases cs with
  | nil => rfl
  | cons c r => rw [List.dropWhile_cons_of_neg (by simp [h c rfl])]

/-- What is selected is a piece of what stands between the quotes, and the offset counts from there. -/
theorem classAt_eq {list : String} {before inner behind : List Char}
    (h : InQuotes list.toList before inner behind) (offset : Nat) :
    classAt list offset = String.ofList (pieceAt (pieces inner) (offset - before.length)) := by
  unfold classAt
  dsimp only
  rw [h.eq, List.append_assoc]
  by_cases hinner : inner = []
  · -- nothing but quotes: no matter which of them are in front, the one piece is empty
    have hquotes : ∀ c ∈ before ++ behind, isQuote c = true := fun c hc =>
      (List.mem_append.1 hc).elim (h.quotesBefore c) (h.quotesBehind c)
    rw [hinner, List.nil_append, List.dropWhile_eq_nil_iff.2 hquotes]
    rfl
  · have hfirst : ∀ c ∈ (inner ++ behind).head?, isQuote c = false := by
      obtain ⟨d, r, rfl⟩ := List.exists_cons_of_ne_nil hinner
      exact h.first
    have hlast : ∀ c ∈ inner.reverse.head?, isQuote c = false := by
      rw [List.head?_reverse]
      exact h.last
    have hbehind : ∀ c ∈ behind.reverse, isQuote c = true := fun c hc => h.quotesBehind c (List.mem_reverse.1 hc)
    rw [takeWhile_run h.quotesBefore hfirst, List.dropWhile_append_of_pos h.quotesBefore, dropWhile_of_head? hfirst,
      List.reverse_append, List.dropWhile_append_of_pos hbehind, dropWhile_of_head? hlast, List.reverse_reverse]

/-- A place in a text, and the longest stretch without spaces that it is in or touches. -/
structure Segment (cs : List Char) (place : Nat) (left piece right : List Char) : Prop where
  eq : cs = left ++ piece ++ right
  run : LongestRun (· != ' ') left piece right
  reached : left.length ≤ place
  notPassed : place ≤ (left ++ piece).length
  /-- A place on a space belongs to what ends there. -/
  onSpace : cs[place]? = some ' ' → place = (left ++ piece).length
  atEnd : place = cs.length → right = []

theorem Cut.segment {cs left piece right : List Char} {offset : Nat} (h : Cut (pieces cs) offset left piece right) :
    Segment cs (min offset cs.length) left piece right := by
  have heq := h.eq
  rw [intercalate_pieces] at heq
  subst heq
  have hoffset := h.reached
  have hlength : (left ++ piece ++ right).length = (left ++ piece).length + right.length := List.length_append
  have hleft : (left ++ piece).length = left.length + piece.length := List.length_append
  have hnotPassed : min offset (left ++ piece ++ right).length ≤ (left ++ piece).length := by
    by_cases hright : right = []
    · rw [hright, List.append_nil]
      exact Nat.min_le_right _ _
    · exact Nat.le_trans (Nat.min_le_left _ _) (h.notPassed hright)
  have hreached : left.length ≤ min offset (left ++ piece ++ right).length := by omega
  refine ⟨rfl, h.run, hreached, hnotPassed, fun hspace => ?_, fun hend => ?_⟩
  · generalize min offset (left ++ piece ++ right).length = place at hspace hnotPassed hreached
    by_contra hne
    -- up to its end the piece has no space
    rw [List.getElem?_append_left (by omega), List.getElem?_append_right hreached] at hspace
    exact absurd (h.run.all ' ' (List.mem_of_getElem? hspace)) (by decide)
  · exact List.eq_nil_of_length_eq_zero (by omega)

/-- In front of a place there are as many spaces as in front of its stretch. -/
theorem Segment.count {cs left piece right : List Char} {place : Nat} (h : Segment cs place left piece right) :
    (cs.take place).count ' ' = left.count ' ' := by
  obtain ⟨k, rfl⟩ := Nat.exists_eq_add_of_le h.reached
  have hnone : (piece.take k).count ' ' = 0 :=
    List.count_eq_zero.2 fun hmem => absurd (h.run.all ' ' (List.mem_of_mem_take hmem)) (by decide)
  rw [h.eq, List.take_append_of_le_length h.notPassed, List.take_length_add_append, List.count_append, hnone,
    Nat.add_zero]

/-- What a cursor selects in a list, told from what stands between the outer quotes. -/
structure Selects (list : String) (offset : Nat) (name : String) : Prop where
  quotes : ∃ before inner behind, InQuotes list.toList before inner behind
  piece : ∀ before inner behind, InQuotes list.toList before inner behind →
    (inner.splitOn ' ')[(inner.take (min (offset - before.length) inner.length)).count ' ']? = some name.toList
  segment : ∀ before inner behind, InQuotes list.toList before inner behind →
    ∃ left right, Segment inner (min (offset - before.length) inner.length) left name.toList right
  /-- More quotes around the list do not matter, if the offset counts those in front. -/
  requoted : ∀ before behind : String, (∀ c ∈ before.toList, isQuote c = true) →
    (∀ c ∈ behind.toList, isQuote c = true) → classAt (before ++ list ++ behind) (offset + before.length) = name

theorem selects_classAt (list : String) (offset : Nat) : Selects list offset (classAt list offset) := by
  have hcut : ∀ before inner behind, InQuotes list.toList before inner behind →
      ∃ left right, Cut (pieces inner) (offset - before.length) left (classAt list offset).toList right := by
    intro before inner behind h
    rw [classAt_eq h, String.toList_ofList]
    exact exists_cut (pieces_ne_nil inner) (fun p hp => space_not_mem hp) _
  have hquotes := exists_inQuotes list.toList
  refine ⟨hquotes, fun before inner behind h => ?_, fun before inner behind h => ?_,
    fun before' behind' hbefore hbehind => ?_⟩
  · obtain ⟨left, right, hcut⟩ := hcut before inner behind h
    rw [hcut.segment.count, ← pieces_eq_splitOn]
    exact hcut.number
  · obtain ⟨left, right, hcut⟩ := hcut before inner behind h
    exact ⟨left, right, hcut.segment⟩
  · obtain ⟨before, inner, behind, h⟩ := hquotes
    have hmore : InQuotes (before' ++ list ++ behind').toList (before'.toList ++ before) inner
        (behind ++ behind'.toList) := by
      refine ⟨?_, fun c hc => (List.mem_append.1 hc).elim (hbefore c) (h.quotesBefore c),
        fun c hc => (List.mem_append.1 hc).elim (h.quotesBehind c) (hbehind c), h.first, h.last⟩
      rw [String.toList_append, String.toList_append, h.eq]
      simp only [List.append_assoc]
    rw [classAt_eq hmore, classAt_eq h, List.length_append, String.length_toList, Nat.add_comm offset,
      Nat.add_sub_add_left]

/-- On a space and behind the list a cursor selects what ends there. -/
example : [1, 4, 5, 10].map (classAt "'pa1 mb2'") = ["pa1", "pa1", "mb2", "mb2"] := by decide

end ClassAtlas.ClassList
