/-
Files of which some are gone. Following a path goes through certain locations, whatever stands there
(`way`); a path whose way is clear of what is gone leads to the same place, is read alike and is written
alike, and what is gone is gone as before after the writing. Any other path is followed alike or not found
(`readText_or`).
-/
import ClassAtlas.Files

namespace ClassAtlas.Files

/-! ## Entries -/

theorem lookup_filter {β : Type} (keep : Location → Bool) (l : List (Location × β)) (loc : Location) :
    (l.filter fun e => keep e.1).lookup loc = if keep loc then l.lookup loc else none := by
  induction l with
  | nil => simp
  | cons e l ih =>
    obtain ⟨at_, entry⟩ := e
    by_cases hloc : loc = at_
    · subst hloc
      cases hk : keep loc <;> simp [hk, ih]
    · have hne : (loc == at_) = false := beq_eq_false_iff_ne.2 hloc
      rw [List.filter_cons, List.lookup_cons, hne]
      cases keep at_
      · exact ih
      · rw [if_pos rfl, List.lookup_cons, hne]
        exact ih

theorem entry?_put (fs : Files) (loc : Location) (e : Entry) (v : Location) :
    entry? (fs.put loc e) v = if v ≠ [] ∧ v = loc then some e else fs.entry? v := by
  unfold entry? put
  by_cases hroot : v = []
  · simp [hroot]
  · by_cases hv : v = loc
    · subst hv
      simp [hroot]
    · have hne : (v == loc) = false := beq_eq_false_iff_ne.2 hv
      have hkeep : (v != loc) = true := bne_iff_ne.2 hv
      rw [if_neg hroot, if_neg hroot, if_neg (fun h => hv h.2), List.lookup_cons, hne,
        lookup_filter (· != loc), if_pos hkeep]

theorem entry?_erase (fs : Files) (loc v : Location) :
    entry? (fs.erase loc) v = if v ≠ [] ∧ loc <+: v then none else fs.entry? v := by
  unfold entry? erase
  by_cases hroot : v = []
  · rw [if_pos hroot, if_neg fun h => h.1 hroot, if_pos hroot]
  · rw [if_neg hroot, if_neg hroot, lookup_filter fun at_ => !loc.isPrefixOf at_]
    by_cases hv : loc <+: v
    · rw [List.isPrefixOf_iff_prefix.2 hv, if_neg (by simp), if_pos ⟨hroot, hv⟩]
    · have hkeep : loc.isPrefixOf v = false := by
        rw [← Bool.not_eq_true, List.isPrefixOf_iff_prefix]
        exact hv
      rw [hkeep, Bool.not_false, if_pos rfl, if_neg fun h => hv h.2]

/-! ## Ways -/

/-- Where a piece of a path leads from a directory. -/
def follow (loc : Location) (n : Path.Name) : Location :=
  if n = [] || n = Path.dot then loc
  else if n = Path.dotDot then loc.dropLast
  else loc ++ [n]

/-- The locations to which pieces of a path lead one after the other. -/
def trail (loc : Location) : List Path.Name → List Location
  | [] => [loc]
  | n :: r => loc :: trail (follow loc n) r

/-- The locations through which a path goes, and the one it leads to. -/
def way (fs : Files) (p : Path) : List Location :=
  trail (fs.origin p) p.pieces

theorem mem_trail_append {loc : Location} {a b : List Path.Name} {v : Location} (hv : v ∈ trail loc a) :
    v ∈ trail loc (a ++ b) := by
  induction a generalizing loc with
  | nil =>
    rw [List.mem_singleton.1 hv]
    cases b <;> exact List.mem_cons_self
  | cons n r ih =>
    rcases List.mem_cons.1 hv with rfl | hv
    · exact List.mem_cons_self
    · exact List.mem_cons_of_mem _ (ih hv)

theorem withoutTrailing_prefix (pieces : List Path.Name) : withoutTrailing pieces <+: pieces := by
  have hsuffix := List.dropWhile_suffix (· = []) (l := pieces.reverse)
  rw [← List.reverse_prefix, List.reverse_reverse] at hsuffix
  exact hsuffix

theorem walk_cons (fs : Files) (loc : Location) (n : Path.Name) (r : List Path.Name) :
    fs.walk loc (n :: r) =
      match fs.entry? loc with
      | none => .error .notFound
      | some (.file _) => .error .notDirectory
      | some (.refused _ reason) => .error (.other reason)
      | some .directory => fs.walk (follow loc n) r := by
  rw [walk]
  cases fs.entry? loc with
  | none => rfl
  | some e =>
    cases e with
    | file content => rfl
    | refused seen reason => rfl
    | directory =>
      unfold follow
      dsimp only
      split
      · rfl
      · split <;> rfl

theorem walk_mem {fs : Files} {loc : Location} {pieces : List Path.Name} {v : Location}
    (h : fs.walk loc pieces = .ok v) : v ∈ trail loc pieces := by
  induction pieces generalizing loc with
  | nil =>
    cases h
    exact List.mem_cons_self
  | cons n r ih =>
    rw [walk_cons] at h
    split at h
    · cases h
    · cases h
    · cases h
    · exact List.mem_cons_of_mem _ (ih h)

theorem resolve_mem {fs : Files} {p : Path} {loc : Location} (h : fs.resolve p = .ok loc) : loc ∈ fs.way p := by
  unfold resolve at h
  split at h
  · cases h
  · exact walk_mem h

/-! ## Without what is gone -/

/-- Files as others are, without what stands at some locations. -/
structure Without (gone : Location → Prop) (fs fs' : Files) : Prop where
  working : fs'.working = fs.working
  missing : ∀ loc, gone loc → fs'.entry? loc = none
  kept : ∀ loc, ¬ gone loc → fs'.entry? loc = fs.entry? loc

/-- A path that goes through nothing that is gone. -/
def Clear (gone : Location → Prop) (fs : Files) (p : Path) : Prop :=
  ∀ loc ∈ fs.way p, ¬ gone loc

/-- Files are without what has been erased from them. -/
theorem without_erase (fs : Files) {loc : Location} (hloc : loc ≠ []) : Without (loc <+: ·) fs (fs.erase loc) where
  working := rfl
  missing v hv := by
    have hroot : v ≠ [] := by
      rintro rfl
      exact hloc (List.prefix_nil.1 hv)
    rw [entry?_erase, if_pos ⟨hroot, hv⟩]
  kept v hv := by rw [entry?_erase, if_neg fun h => hv h.2]

section Without

variable {gone : Location → Prop} {fs fs' : Files} (h : Without gone fs fs')
include h

theorem Without.origin (p : Path) : fs'.origin p = fs.origin p := by
  unfold Files.origin
  rw [h.working]

/-! ### Reading -/

/-- What is followed in files of which some are gone is followed alike, or something is not found. -/
theorem Without.walk_or (loc : Location) (pieces : List Path.Name) :
    fs'.walk loc pieces = fs.walk loc pieces ∨ fs'.walk loc pieces = .error .notFound := by
  induction pieces generalizing loc with
  | nil => exact .inl rfl
  | cons n r ih =>
    rw [walk_cons, walk_cons]
    by_cases hg : gone loc
    · rw [h.missing loc hg]
      exact .inr rfl
    · rw [h.kept loc hg]
      split
      · exact .inl rfl
      · exact .inl rfl
      · exact .inl rfl
      · exact ih (follow loc n)

theorem Without.resolve_or (p : Path) : fs'.resolve p = fs.resolve p ∨ fs'.resolve p = .error .notFound := by
  unfold resolve
  rw [h.origin]
  split
  · exact .inl rfl
  · exact h.walk_or _ _

theorem Without.stat_or (p : Path) : fs'.stat p = fs.stat p ∨ fs'.stat p = .error .notFound := by
  unfold stat
  rcases h.resolve_or p with hr | hr
  · rw [hr]
    cases fs.resolve p with
    | error e => exact .inl rfl
    | ok loc =>
      dsimp only [bind, Except.bind]
      by_cases hg : gone loc
      · rw [h.missing loc hg]
        exact .inr rfl
      · rw [h.kept loc hg]
        exact .inl rfl
  · rw [hr]
    exact .inr rfl

theorem Without.readText_or (p : Path) :
    fs'.readText p = fs.readText p ∨ fs'.readText p = .error .notFound := by
  unfold readText read
  rcases h.stat_or p with hs | hs
  · rw [hs]
    exact .inl rfl
  · rw [hs]
    exact .inr rfl

/-- A path that leads to something that is gone leads nowhere. -/
theorem Without.readText_gone {p : Path} {loc : Location} (hp : fs.resolve p = .ok loc) (hg : gone loc) :
    fs'.readText p = .error .notFound := by
  have hstat : fs'.stat p = .error .notFound := by
    unfold stat
    rcases h.resolve_or p with hr | hr
    · rw [hr, hp]
      dsimp only [bind, Except.bind]
      rw [h.missing loc hg]
    · rw [hr]
      rfl
  unfold readText read
  rw [hstat]
  rfl

theorem Without.walk_eq {loc : Location} {pieces : List Path.Name} (hw : ∀ v ∈ trail loc pieces, ¬ gone v) :
    fs'.walk loc pieces = fs.walk loc pieces := by
  induction pieces generalizing loc with
  | nil => rfl
  | cons n r ih =>
    obtain ⟨hloc, hr⟩ := List.forall_mem_cons.1 hw
    rw [walk_cons, walk_cons, h.kept loc hloc]
    split
    · rfl
    · rfl
    · rfl
    · exact ih hr

theorem Without.resolve_eq {p : Path} (hp : fs.Clear gone p) : fs'.resolve p = fs.resolve p := by
  unfold resolve
  rw [h.origin, h.walk_eq hp]

theorem Without.stat_eq {p : Path} (hp : fs.Clear gone p) : fs'.stat p = fs.stat p := by
  unfold stat
  rw [h.resolve_eq hp]
  cases hr : fs.resolve p with
  | error e => rfl
  | ok loc =>
    dsimp only [bind, Except.bind]
    rw [h.kept loc (hp loc (resolve_mem hr))]

theorem Without.isDirectory_eq {p : Path} (hp : fs.Clear gone p) : fs'.isDirectory p = fs.isDirectory p := by
  unfold isDirectory
  rw [h.stat_eq hp]

theorem Without.readText_eq {p : Path} (hp : fs.Clear gone p) : fs'.readText p = fs.readText p := by
  unfold readText read
  rw [h.stat_eq hp]

/-! ### Writing -/

/-- What is put anywhere else leaves gone what is gone. -/
theorem Without.put {loc : Location} (hloc : ¬ gone loc) (e : Entry) :
    Without gone (fs.put loc e) (fs'.put loc e) where
  working := h.working
  missing v hv := by
    have hne : v ≠ loc := by
      rintro rfl
      exact hloc hv
    rw [entry?_put, if_neg fun hvloc => hne hvloc.2, h.missing v hv]
  kept v hv := by
    rw [entry?_put, entry?_put, h.kept v hv]

end Without

/-- An attempt to write comes to the same in files of which some are gone: the same error, or one entry at the
same location. -/
inductive Written (gone : Location → Prop) (fs fs' : Files) : Except Error Files → Except Error Files → Prop
  | failed (e : Error) : Written gone fs fs' (.error e) (.error e)
  | put {made made' : Files} (files : Without gone made made') (working : made.working = fs.working) :
      Written gone fs fs' (.ok made) (.ok made')

section Written

variable {gone : Location → Prop} {fs fs' : Files} (h : Without gone fs fs') {p : Path} (hp : fs.Clear gone p)
include h hp

theorem Without.write (content : ByteArray) : Written gone fs fs' (fs.write p content) (fs'.write p content) := by
  unfold Files.write
  rw [h.resolve_eq hp]
  cases hr : fs.resolve p with
  | error e => exact .failed e
  | ok loc =>
    have hloc := hp loc (resolve_mem hr)
    dsimp only [bind, Except.bind]
    rw [h.kept loc hloc]
    split
    · exact .failed _
    · exact .failed _
    · exact .put (h.put hloc _) rfl
    · exact .put (h.put hloc _) rfl

theorem Without.makeDirectory : Written gone fs fs' (fs.makeDirectory p) (fs'.makeDirectory p) := by
  obtain ⟨rest, hrest⟩ := withoutTrailing_prefix p.pieces
  have hclear : ∀ v ∈ trail (fs.origin p) (withoutTrailing p.pieces), ¬ gone v := fun v hv =>
    hp v (by rw [way, ← hrest]; exact mem_trail_append hv)
  unfold Files.makeDirectory
  rw [h.origin, h.walk_eq hclear]
  split
  · exact .failed _
  · cases hw : fs.walk (fs.origin p) (withoutTrailing p.pieces) with
    | error e => exact .failed e
    | ok loc =>
      have hloc := hclear loc (walk_mem hw)
      dsimp only [bind, Except.bind]
      rw [h.kept loc hloc]
      split
      · exact .put (h.put hloc _) rfl
      · exact .failed _
      · exact .failed _

end Written

/-- Making directories one after the other comes to the same in files of which some are gone. -/
structure Made (gone : Location → Prop) (fs : Files) (r r' : Files × Except Error Unit) : Prop where
  result : r'.2 = r.2
  files : Without gone r.1 r'.1
  working : r.1.working = fs.working

section Made

variable {gone : Location → Prop}

/-- A path is as clear as it was if the working directory is the same. -/
theorem Clear.of_working {fs made : Files} (hw : made.working = fs.working) {p : Path} (hp : fs.Clear gone p) :
    made.Clear gone p := by
  unfold Clear way Files.origin at *
  rw [hw]
  exact hp

/-- The end of an attempt to make a directory: it may have been there. -/
theorem Without.madeOrThere {fs made made' : Files} (h : Without gone made made')
    (hw : made.working = fs.working) {p : Path} (hp : made.Clear gone p) (e : Error) :
    Made gone fs (if made.isDirectory p then (made, .ok ()) else (made, .error e))
      (if made'.isDirectory p then (made', .ok ()) else (made', .error e)) := by
  rw [h.isDirectory_eq hp]
  split <;> exact ⟨rfl, h, hw⟩

theorem Without.makeNested {fs fs' : Files} (h : Without gone fs fs') {paths : List Path}
    (hp : ∀ p ∈ paths, fs.Clear gone p) : Made gone fs (fs.makeNested paths) (fs'.makeNested paths) := by
  induction paths with
  | nil => exact ⟨rfl, h, rfl⟩
  | cons p above ih =>
    obtain ⟨hfirst, habove⟩ := List.forall_mem_cons.1 hp
    rw [Files.makeNested, Files.makeNested]
    have hmade := h.makeDirectory hfirst
    generalize fs.makeDirectory p = first, fs'.makeDirectory p = first' at hmade ⊢
    cases hmade with
    | put files working => exact ⟨rfl, files, working⟩
    | failed e =>
      cases e with
      | notFound =>
        -- the directories above are made first, and then this one in what they have left
        have hnested := ih habove
        generalize fs.makeNested above = nested, fs'.makeNested above = nested' at hnested ⊢
        obtain ⟨made, result⟩ := nested
        obtain ⟨made', result'⟩ := nested'
        obtain ⟨rfl, hfiles, hworking⟩ := hnested
        cases result' with
        | error e => exact ⟨rfl, hfiles, hworking⟩
        | ok _ =>
          have hclear := hfirst.of_working hworking
          have hmade := hfiles.makeDirectory hclear
          dsimp only
          generalize made.makeDirectory p = last, made'.makeDirectory p = last' at hmade ⊢
          cases hmade with
          | put files working => exact ⟨rfl, files, working.trans hworking⟩
          | failed e => exact hfiles.madeOrThere hworking hclear e
      | _ => exact h.madeOrThere rfl hfirst _

theorem Without.makeDirectories {fs fs' : Files} (h : Without gone fs fs') {p : Path}
    (hp : ∀ q ∈ p :: p.above, fs.Clear gone q) :
    Made gone fs (fs.makeDirectories p) (fs'.makeDirectories p) := by
  unfold Files.makeDirectories
  split
  · exact ⟨rfl, h, rfl⟩
  · exact h.makeNested hp

end Made

end ClassAtlas.Files
