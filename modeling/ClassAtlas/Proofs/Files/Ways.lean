/-
The ways of paths. A path is followed if there is a directory wherever it goes through (`walk_concat_eq_ok_iff`); pieces
that name nothing lead nowhere else (`mem_way_iff`), so that the way to a directory holds the ways to those above it
(`way_above`), and a name joined to a directory is reached by way of the directory (`resolve_join_eq_ok_iff`).
-/
import ClassAtlas.Proofs.Files.Without
import ClassAtlas.Proofs.Path

namespace ClassAtlas.Files

/-! ## Where pieces lead -/

/-- Where pieces of a path lead, whatever stands on the way. -/
def goal (loc : Location) (pieces : List Path.Name) : Location :=
  pieces.foldl follow loc

theorem follow_of_isComponent {n : Path.Name} (h : Path.IsComponent n) (hup : n ≠ Path.dotDot) (loc : Location) :
    follow loc n = loc ++ [n] := by
  simp [follow, h.ne_nil, h.ne_dot, hup]

theorem goal_append (loc : Location) (a b : List Path.Name) : goal loc (a ++ b) = goal (goal loc a) b :=
  List.foldl_append

theorem head_mem_trail (loc : Location) (pieces : List Path.Name) : loc ∈ trail loc pieces := by
  cases pieces <;> exact List.mem_cons_self

theorem trail_concat (loc : Location) (a : List Path.Name) (n : Path.Name) :
    trail loc (a ++ [n]) = trail loc a ++ [goal loc (a ++ [n])] := by
  induction a generalizing loc with
  | nil => rfl
  | cons m r ih => exact congrArg (loc :: ·) (ih (follow loc m))

theorem follow_unnamed {n : Path.Name} (h : Path.isNamed n = false) (loc : Location) : follow loc n = loc := by
  rw [Path.isNamed, Bool.and_eq_false_iff, bne_eq_false_iff_eq, bne_eq_false_iff_eq] at h
  rcases h with rfl | rfl <;> rfl

theorem goal_names (loc : Location) (pieces : List Path.Name) : goal loc (Path.names pieces) = goal loc pieces := by
  induction pieces generalizing loc with
  | nil => rfl
  | cons n r ih =>
    cases hn : Path.isNamed n with
    | true =>
      rw [Path.names, List.filter_cons_of_pos hn]
      exact ih (follow loc n)
    | false =>
      rw [Path.names, List.filter_cons_of_neg (by simp [hn])]
      refine (ih loc).trans ?_
      rw [goal, goal, List.foldl_cons, follow_unnamed hn]

theorem mem_trail_names {v loc : Location} {pieces : List Path.Name} :
    v ∈ trail loc (Path.names pieces) ↔ v ∈ trail loc pieces := by
  induction pieces generalizing loc with
  | nil => rfl
  | cons n r ih =>
    cases hn : Path.isNamed n with
    | true =>
      rw [Path.names, List.filter_cons_of_pos hn, trail, trail, List.mem_cons, List.mem_cons]
      exact or_congr_right ih
    | false =>
      rw [Path.names, List.filter_cons_of_neg (by simp [hn]), trail, follow_unnamed hn, List.mem_cons]
      refine ih.trans ⟨.inr, ?_⟩
      rintro (rfl | h)
      · exact head_mem_trail v r
      · exact h

theorem mem_way_iff {fs : Files} {p : Path} {v : Location} :
    v ∈ fs.way p ↔ v ∈ trail (fs.origin p) p.components :=
  mem_trail_names.symm

theorem way_of_working {fs made : Files} (h : made.working = fs.working) (p : Path) : made.way p = fs.way p := by
  unfold way origin
  rw [h]

theorem origin_of_isAbsolute {p q : Path} (h : q.isAbsolute = p.isAbsolute) (fs : Files) :
    fs.origin q = fs.origin p := by
  unfold origin
  rw [h]

theorem way_above {fs : Files} {p q : Path} (h : q ∈ p.above) {v : Location} (hv : v ∈ fs.way q) : v ∈ fs.way p := by
  obtain ⟨n, hpos, hlt, rfl⟩ := Path.mem_above h
  have hne : p.components.take n ≠ [] := List.ne_nil_of_length_pos (by rw [List.length_take]; omega)
  have hcomponents : ∀ c ∈ p.components.take n, Path.IsComponent c := fun c hc =>
    Path.isComponent_of_mem (List.mem_of_mem_take hc)
  rw [mem_way_iff, Path.components_ofComponents hne hcomponents,
    origin_of_isAbsolute (Path.isAbsolute_ofComponents hne hcomponents _)] at hv
  rw [mem_way_iff, ← List.take_append_drop n p.components]
  exact mem_trail_append hv

/-! ## Following them -/

/-- Pieces are followed if there is a directory wherever they go through. -/
theorem walk_concat_eq_ok_iff {fs : Files} {loc v : Location} {a : List Path.Name} {n : Path.Name} :
    fs.walk loc (a ++ [n]) = .ok v ↔ (∀ u ∈ trail loc a, fs.entry? u = some .directory) ∧ v = goal loc (a ++ [n]) := by
  induction a generalizing loc with
  | nil =>
    rw [List.nil_append, walk_cons, trail, List.forall_mem_singleton]
    cases fs.entry? loc with
    | none => simp
    | some e => cases e <;> simp [walk, goal, eq_comm]
  | cons m r ih =>
    rw [List.cons_append, walk_cons, trail, List.forall_mem_cons, and_assoc]
    cases fs.entry? loc with
    | none => simp
    | some e =>
      cases e with
      | file bytes => simp
      | refused seen reason => simp
      | directory => simpa [goal] using ih

/-- What is not followed goes through something that is no directory, or something on the way is not found. -/
theorem walk_of_unblocked {fs : Files} {loc : Location} {pieces : List Path.Name}
    (h : ∀ u ∈ trail loc pieces, ∀ e, fs.entry? u = some e → e = .directory) :
    fs.walk loc pieces = .ok (goal loc pieces) ∨ fs.walk loc pieces = .error .notFound := by
  induction pieces generalizing loc with
  | nil => exact .inl rfl
  | cons n r ih =>
    obtain ⟨hloc, hr⟩ := List.forall_mem_cons.1 h
    rw [walk_cons]
    split
    · exact .inr rfl
    · next bytes hfile => cases hloc _ hfile
    · next seen reason hrefused => cases hloc _ hrefused
    · exact ih hr

theorem isDirectory_eq_true_iff {fs : Files} {p : Path} :
    fs.isDirectory p = true ↔ ∃ v, fs.resolve p = .ok v ∧ fs.entry? v = some .directory := by
  unfold isDirectory stat
  cases fs.resolve p with
  | error e => simp [bind, Except.bind]
  | ok v =>
    simp only [bind, Except.bind, Except.ok.injEq, exists_eq_left']
    cases fs.entry? v with
    | none => simp
    | some e =>
      cases e with
      | refused seen reason => cases seen <;> simp
      | _ => simp

/-- A path leads to a directory if it goes through nothing but directories and ends at one. -/
theorem isDirectory_iff_way {fs : Files} {p : Path} :
    fs.isDirectory p = true ↔ p.bytes ≠ [] ∧ ∀ u ∈ fs.way p, fs.entry? u = some .directory := by
  obtain ⟨a, n, hpieces⟩ := (List.eq_nil_or_concat p.pieces).resolve_left (Path.piecesOf_ne_nil p.bytes)
  rw [List.concat_eq_append] at hpieces
  rw [isDirectory_eq_true_iff, resolve, way, hpieces, trail_concat, List.forall_mem_append, List.forall_mem_singleton]
  by_cases hbytes : p.bytes = []
  · simp [hbytes]
  · rw [if_neg hbytes, ne_eq, and_iff_right hbytes]
    simp only [walk_concat_eq_ok_iff, and_assoc, exists_and_left, exists_eq_left]

/-- A name in a directory is reached if the way to the directory is free. -/
theorem resolve_join_eq_ok_iff {fs : Files} {directory file : Path} (hfile : Path.IsComponent file.bytes)
    {v : Location} :
    fs.resolve (directory.join file) = .ok v ↔ (∀ u ∈ fs.way directory, fs.entry? u = some .directory) ∧
      v = follow (goal (fs.origin directory) directory.components) file.bytes := by
  have hrelative := Path.isAbsolute_of_isComponent hfile
  have hpiece : file.pieces = [file.bytes] := Path.piecesOf_of_not_mem hfile.solid
  obtain ⟨front, hpieces, hnames⟩ := directory.exists_pieces_join hrelative
  rw [resolve, if_neg (directory.bytes_join hrelative hfile.ne_nil), hpieces, hpiece,
    origin_of_isAbsolute (directory.isAbsolute_join hrelative), walk_concat_eq_ok_iff, goal_append,
    ← goal_names _ front, hnames]
  refine and_congr_left' (forall_congr' fun u => ?_)
  rw [mem_way_iff, ← hnames, mem_trail_names]

end ClassAtlas.Files
