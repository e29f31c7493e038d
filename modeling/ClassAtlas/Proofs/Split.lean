/-
Lists split at a separator. Texts are split at spaces and paths at slashes by recursions of one form, which give what
`List.splitOn` gives (`eq_splitOn`); no piece holds the separator.
-/
import Mathlib.Data.List.Basic

namespace ClassAtlas

variable {α : Type} [BEq α] [LawfulBEq α] {x : α}

theorem eq_splitOn {f : List α → List (List α)} (hnil : f [] = [[]]) (hsplit : ∀ r, f (x :: r) = [] :: f r)
    (hkept : ∀ c r piece others, c ≠ x → f r = piece :: others → f (c :: r) = (c :: piece) :: others) (l : List α) :
    f l = l.splitOn x := by
  induction l with
  | nil => rw [hnil, List.splitOn_nil]
  | cons c r ih =>
    rw [List.splitOn_cons_eq_if_modifyHead]
    split
    · next hc => rw [eq_of_beq hc, hsplit, ih]
    · next hc =>
      obtain ⟨piece, others, hr⟩ := List.exists_cons_of_ne_nil (List.splitOn_ne_nil x r)
      rw [hkept c r piece others (fun h => hc (beq_iff_eq.2 h)) (ih.trans hr), hr, List.modifyHead_cons]

theorem not_mem_of_mem_splitOn {l piece : List α} (h : piece ∈ l.splitOn x) : x ∉ piece := by
  induction l generalizing piece with
  | nil =>
    rw [List.splitOn_nil, List.mem_singleton] at h
    rw [h]
    exact List.not_mem_nil
  | cons c r ih =>
    rw [List.splitOn_cons_eq_if_modifyHead] at h
    split at h
    · rcases List.mem_cons.1 h with rfl | h
      · exact List.not_mem_nil
      · exact ih h
    · next hc =>
      obtain ⟨first, others, hr⟩ := List.exists_cons_of_ne_nil (List.splitOn_ne_nil x r)
      rw [hr] at h ih
      rcases List.mem_cons.1 h with rfl | h
      · rw [List.mem_cons, not_or]
        exact ⟨fun heq => hc (beq_iff_eq.2 heq.symm), ih List.mem_cons_self⟩
      · exact ih (List.mem_cons_of_mem _ h)

end ClassAtlas
