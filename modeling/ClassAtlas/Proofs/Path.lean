/-
Paths by their pieces. Slashes part a path into pieces, and those that name something are its components; a path that is
made of components has them again (`components_ofComponents`), and a path joined to a directory has the components of
both (`components_join`).
-/
import ClassAtlas.Path
import ClassAtlas.Proofs.Split

namespace ClassAtlas.Path

/-! ## Pieces -/

theorem piecesOf_eq_splitOn (bytes : List UInt8) : piecesOf bytes = bytes.splitOn slash := by
  refine eq_splitOn rfl (fun r => if_pos rfl) (fun b r n ns hb hr => ?_) bytes
  rw [piecesOf, if_neg hb, hr]

theorem piecesOf_ne_nil (bytes : List UInt8) : piecesOf bytes ≠ [] := by
  rw [piecesOf_eq_splitOn]
  exact List.splitOn_ne_nil _ _

theorem piecesOf_append_slash (a b : List UInt8) : piecesOf (a ++ slash :: b) = piecesOf a ++ piecesOf b := by
  simp only [piecesOf_eq_splitOn, List.splitOn_append_cons_self]

theorem piecesOf_of_not_mem {name : Name} (h : slash ∉ name) : piecesOf name = [name] := by
  rw [piecesOf_eq_splitOn, List.splitOn_eq_singleton h]

theorem slash_not_mem {n : Name} {bytes : List UInt8} (h : n ∈ piecesOf bytes) : slash ∉ n := by
  rw [piecesOf_eq_splitOn] at h
  exact not_mem_of_mem_splitOn h

/-! ## Components -/

/-- Whether a piece names something. -/
def isNamed (n : Name) : Bool :=
  n != [] && n != dot

theorem isNamed_iff {n : Name} : isNamed n = true ↔ n ≠ [] ∧ n ≠ dot := by
  rw [isNamed, Bool.and_eq_true, bne_iff_ne, bne_iff_ne]

/-- The pieces that name something. -/
def names (pieces : List Name) : List Name :=
  pieces.filter isNamed

theorem components_eq (p : Path) : p.components = names p.pieces := rfl

theorem names_append (a b : List Name) : names (a ++ b) = names a ++ names b :=
  List.filter_append ..

theorem names_empties {pieces : List Name} (h : ∀ n ∈ pieces, n = []) : names pieces = [] := by
  refine List.filter_eq_nil_iff.2 fun n hn => ?_
  rw [h n hn]
  decide

/-- A piece that names something. -/
structure IsComponent (n : Name) : Prop where
  ne_nil : n ≠ []
  ne_dot : n ≠ dot
  solid : slash ∉ n

theorem names_of_isComponent {pieces : List Name} (h : ∀ n ∈ pieces, IsComponent n) : names pieces = pieces :=
  List.filter_eq_self.2 fun n hn => isNamed_iff.2 ⟨(h n hn).ne_nil, (h n hn).ne_dot⟩

theorem isComponent_of_mem {p : Path} {n : Name} (h : n ∈ p.components) : IsComponent n := by
  obtain ⟨hpiece, hnamed⟩ := List.mem_filter.1 h
  obtain ⟨hne, hdot⟩ := isNamed_iff.1 hnamed
  exact ⟨hne, hdot, slash_not_mem hpiece⟩

section OfComponents

variable {components : List Name} (hne : components ≠ []) (h : ∀ n ∈ components, IsComponent n)
include hne h

theorem bytes_ofComponents (absolute : Bool) : (ofComponents absolute components).bytes ≠ [] := by
  obtain ⟨n, r, rfl⟩ := List.exists_cons_of_ne_nil hne
  obtain ⟨b, ns, rfl⟩ := List.exists_cons_of_ne_nil (h n List.mem_cons_self).ne_nil
  unfold ofComponents
  cases r <;> simp [List.intercalate_cons_cons]

theorem isAbsolute_ofComponents (absolute : Bool) : (ofComponents absolute components).isAbsolute = absolute := by
  obtain ⟨n, r, rfl⟩ := List.exists_cons_of_ne_nil hne
  have hn := h n List.mem_cons_self
  obtain ⟨b, ns, rfl⟩ := List.exists_cons_of_ne_nil hn.ne_nil
  have hb : b ≠ slash := fun heq => hn.solid (heq ▸ List.mem_cons_self)
  unfold isAbsolute ofComponents
  cases absolute <;> cases r <;> simp [List.intercalate_cons_cons, hb]

theorem pieces_ofComponents (absolute : Bool) :
    (ofComponents absolute components).pieces = (if absolute then [[]] else []) ++ components := by
  have hpieces : piecesOf ([slash].intercalate components) = components := by
    rw [piecesOf_eq_splitOn, List.splitOn_intercalate slash (fun n hn => (h n hn).solid) hne]
  unfold pieces ofComponents
  cases absolute with
  | false => exact hpieces
  | true =>
    change piecesOf ([] ++ slash :: [slash].intercalate components) = _
    rw [piecesOf_append_slash, hpieces]
    rfl

theorem components_ofComponents (absolute : Bool) : (ofComponents absolute components).components = components := by
  rw [components_eq, pieces_ofComponents hne h, names_append, names_of_isComponent h]
  cases absolute <;> rfl

end OfComponents

/-- Above a directory is the one in which it is, and what is above that. -/
theorem above_eq {p : Path} {init : List Name} {last : Name} (h : p.components = init ++ [last]) (hne : init ≠ []) :
    p.above = ofComponents p.isAbsolute init :: (ofComponents p.isAbsolute init).above := by
  have hinit : ∀ n ∈ init, IsComponent n := fun n hn => isComponent_of_mem (h ▸ List.mem_append_left _ hn)
  have hlength : 1 ≤ init.length := List.length_pos_iff.2 hne
  have htake : ∀ n ∈ (List.range init.length).drop 1, (init ++ [last]).take n = init.take n := fun n hn =>
    List.take_append_of_le_length (Nat.le_of_lt (List.mem_range.1 (List.mem_of_mem_drop hn)))
  unfold above
  rw [h, components_ofComponents hne hinit, isAbsolute_ofComponents hne hinit, List.length_append,
    List.length_singleton, List.range_succ, List.drop_append_of_le_length (by rwa [List.length_range]),
    List.reverse_append, List.map_append]
  simp only [List.reverse_singleton, List.map_singleton, List.take_left', List.singleton_append, List.cons.injEq,
    true_and]
  exact List.map_congr_left fun n hn => by rw [htake n (List.mem_reverse.1 hn)]

theorem above_eq_nil {p : Path} (h : p.components.length ≤ 1) : p.above = [] := by
  unfold above
  rw [List.drop_eq_nil_of_le (by rwa [List.length_range])]
  rfl

theorem mem_above {p q : Path} (h : q ∈ p.above) :
    ∃ n, 0 < n ∧ n < p.components.length ∧ q = ofComponents p.isAbsolute (p.components.take n) := by
  obtain ⟨n, hn, rfl⟩ := List.mem_map.1 h
  rw [List.mem_reverse] at hn
  cases hlength : p.components.length with
  | zero =>
    rw [hlength] at hn
    exact absurd hn List.not_mem_nil
  | succ m =>
    rw [hlength, List.range_succ_eq_map, List.drop_one, List.tail_cons] at hn
    obtain ⟨k, hk, rfl⟩ := List.mem_map.1 hn
    exact ⟨k + 1, Nat.succ_pos k, Nat.succ_lt_succ (List.mem_range.1 hk), rfl⟩

/-! ## Joining -/

theorem isAbsolute_of_isComponent {file : Path} (hfile : IsComponent file.bytes) : file.isAbsolute = false := by
  obtain ⟨b, r, hbytes⟩ := List.exists_cons_of_ne_nil hfile.ne_nil
  refine beq_eq_false_iff_ne.2 fun heq => hfile.solid ?_
  rw [hbytes] at heq ⊢
  cases heq
  exact List.mem_cons_self

section Join

variable (directory : Path) {path : Path} (hrelative : path.isAbsolute = false)
include hrelative

theorem bytes_join (hne : path.bytes ≠ []) : (directory.join path).bytes ≠ [] := by
  unfold join
  rw [hrelative, if_neg Bool.false_ne_true]
  split <;> simp [hne]

theorem isAbsolute_join : (directory.join path).isAbsolute = directory.isAbsolute := by
  unfold join
  rw [hrelative, if_neg Bool.false_ne_true]
  unfold isAbsolute at hrelative ⊢
  cases hbytes : directory.bytes with
  | nil => exact hrelative
  | cons b r => split <;> rfl

/-- The pieces of a path that is joined to a directory stand behind those that lead to the directory. -/
theorem exists_pieces_join : ∃ front, (directory.join path).pieces = front ++ path.pieces ∧
    names front = directory.components := by
  unfold join
  rw [hrelative, if_neg Bool.false_ne_true]
  split
  · next hend =>
    rw [Bool.or_eq_true, decide_eq_true_iff, decide_eq_true_iff] at hend
    rcases hend with hempty | hslash
    · refine ⟨[], ?_, ?_⟩
      · rw [hempty]
        rfl
      · rw [components_eq, pieces, hempty]
        rfl
    · -- the empty piece behind the last slash gives way to what is joined
      obtain ⟨front, hfront⟩ := List.getLast?_eq_some_iff.1 hslash
      refine ⟨piecesOf front, ?_, ?_⟩
      · rw [pieces, hfront, List.append_assoc, List.singleton_append, piecesOf_append_slash, pieces]
      · rw [components_eq, pieces, hfront, piecesOf_append_slash, names_append]
        exact (List.append_nil _).symm
  · refine ⟨directory.pieces, ?_, rfl⟩
    rw [pieces, piecesOf_append_slash, pieces, pieces]

theorem components_join : (directory.join path).components = directory.components ++ path.components := by
  obtain ⟨front, hpieces, hnames⟩ := exists_pieces_join directory hrelative
  rw [components_eq, hpieces, names_append, hnames, ← components_eq]

end Join

end ClassAtlas.Path
