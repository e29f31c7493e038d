/-
Files to which directories are added, and files of which one is written. Where something stood it stands still, and
what is new are directories where nothing stood (`Extends`): a path that led somewhere leads there as before, and one
that is blocked by a file is blocked as before. Making directories adds on the way to them (`extends_makeDirectories`).
Writing a file changes what stands at one location, where there was a file or nothing, so that no path is led anywhere
else (`resolve_write`).
-/
import ClassAtlas.Proofs.Files.Ways

namespace ClassAtlas.Files

theorem read_eq_ok_iff {fs : Files} {p : Path} {bytes : ByteArray} :
    fs.read p = .ok bytes ↔ ∃ loc, fs.resolve p = .ok loc ∧ fs.entry? loc = some (.file bytes) := by
  unfold read stat
  cases fs.resolve p with
  | error e => simp [bind, Except.bind]
  | ok loc =>
    simp only [bind, Except.bind, Except.ok.injEq, exists_eq_left']
    cases fs.entry? loc with
    | none => simp
    | some e =>
      cases e with
      | refused seen reason => cases seen <;> simp
      | _ => simp

theorem fromUTF8?_eq_some_iff {bytes : ByteArray} {text : String} :
    String.fromUTF8? bytes = some text ↔ bytes = text.toUTF8 := by
  unfold String.fromUTF8?
  constructor
  · intro h
    obtain ⟨hvalid, htext⟩ := Option.dite_none_right_eq_some.1 h
    cases htext
    rfl
  · rintro rfl
    exact dif_pos text.isValidUTF8

/-- A text is read where its bytes are. -/
theorem readText_eq_ok_iff {fs : Files} {p : Path} {text : String} :
    fs.readText p = .ok text ↔ fs.read p = .ok text.toUTF8 := by
  unfold readText
  cases fs.read p with
  | error e => simp [bind, Except.bind]
  | ok bytes =>
    simp only [bind, Except.bind, Except.ok.injEq, ← fromUTF8?_eq_some_iff]
    cases String.fromUTF8? bytes <;> simp

/-! ## Adding -/

/-- Files with more directories in them, at certain locations: what was there is there as it was. -/
structure Extends (new : Location → Prop) (fs made : Files) : Prop where
  working : made.working = fs.working
  kept : ∀ loc e, fs.entry? loc = some e → made.entry? loc = some e
  added : ∀ loc e, made.entry? loc = some e → fs.entry? loc = some e ∨ e = .directory ∧ new loc

section Extends

variable {new : Location → Prop} {fs made more : Files}

theorem Extends.refl (new : Location → Prop) (fs : Files) : Extends new fs fs :=
  ⟨rfl, fun _ _ h => h, fun _ _ h => .inl h⟩

theorem Extends.trans (h : Extends new fs made) (h' : Extends new made more) : Extends new fs more where
  working := h'.working.trans h.working
  kept loc e he := h'.kept loc e (h.kept loc e he)
  added loc e he := (h'.added loc e he).elim (h.added loc e) .inr

theorem Extends.origin (h : Extends new fs made) (p : Path) : made.origin p = fs.origin p := by
  unfold Files.origin
  rw [h.working]

/-- What files were before something was added is what they are without it. -/
theorem Extends.without (h : Extends new fs made) : Without (fs.entry? · = none) made fs where
  working := h.working.symm
  missing _ hloc := hloc
  kept loc hloc := by
    obtain ⟨e, he⟩ := Option.ne_none_iff_exists'.1 hloc
    rw [he, h.kept loc e he]

theorem Extends.resolve (h : Extends new fs made) {p : Path} {loc : Location} (hp : fs.resolve p = .ok loc) :
    made.resolve p = .ok loc := by
  rcases h.without.resolve_or p with hsame | hmissing
  · rw [← hsame, hp]
  · rw [hmissing] at hp
    cases hp

theorem Extends.read (h : Extends new fs made) {p : Path} {bytes : ByteArray} (hp : fs.read p = .ok bytes) :
    made.read p = .ok bytes := by
  obtain ⟨loc, hloc, he⟩ := read_eq_ok_iff.1 hp
  exact read_eq_ok_iff.2 ⟨loc, h.resolve hloc, h.kept loc _ he⟩

theorem extends_put {loc : Location} (hloc : fs.entry? loc = none) (hnew : new loc) :
    Extends new fs (fs.put loc .directory) where
  working := rfl
  kept v entry hv := by
    rw [entry?_put, if_neg, hv]
    rintro ⟨-, rfl⟩
    rw [hloc] at hv
    cases hv
  added v entry hv := by
    rw [entry?_put] at hv
    split at hv
    · next hat =>
      cases hv
      exact .inr ⟨rfl, hat.2 ▸ hnew⟩
    · exact .inl hv

theorem makeDirectory_eq_ok_iff {p : Path} : fs.makeDirectory p = .ok made ↔
    p.bytes ≠ [] ∧ ∃ loc, fs.walk (fs.origin p) (withoutTrailing p.pieces) = .ok loc ∧ fs.entry? loc = none ∧
      made = fs.put loc .directory := by
  unfold makeDirectory
  by_cases hbytes : p.bytes = []
  · simp [hbytes]
  · rw [if_neg hbytes]
    cases fs.walk (fs.origin p) (withoutTrailing p.pieces) with
    | error e => simp [bind, Except.bind]
    | ok loc =>
      simp only [bind, Except.bind, Except.ok.injEq, exists_eq_left', ne_eq, hbytes, not_false_eq_true, true_and]
      cases fs.entry? loc with
      | none => simp [eq_comm]
      | some e => cases e <;> simp

theorem extends_makeDirectory {p : Path} (h : fs.makeDirectory p = .ok made) (hnew : ∀ v ∈ fs.way p, new v) :
    Extends new fs made := by
  obtain ⟨-, loc, hwalk, hloc, rfl⟩ := makeDirectory_eq_ok_iff.1 h
  obtain ⟨rest, hrest⟩ := withoutTrailing_prefix p.pieces
  refine extends_put hloc (hnew loc ?_)
  rw [way, ← hrest]
  exact mem_trail_append (walk_mem hwalk)

theorem extends_makeNested {paths : List Path} (hnew : ∀ p ∈ paths, ∀ v ∈ fs.way p, new v) :
    Extends new fs (fs.makeNested paths).1 := by
  induction paths with
  | nil => exact .refl new fs
  | cons p above ih =>
    obtain ⟨hp, habove⟩ := List.forall_mem_cons.1 hnew
    unfold makeNested
    split
    · next made hmade => exact extends_makeDirectory hmade hp
    · have hnested := ih habove
      split
      · next made e heq =>
        rw [heq] at hnested
        exact hnested
      · next made heq =>
        rw [heq] at hnested
        split
        · next last hlast =>
          refine hnested.trans (extends_makeDirectory hlast ?_)
          rw [way_of_working hnested.working]
          exact hp
        · split <;> exact hnested
    · split <;> exact .refl new fs

theorem extends_of_makeNested {paths : List Path} {result : Except Error Unit}
    (h : fs.makeNested paths = (made, result)) : Extends (fun _ => True) fs made := by
  have hextends : Extends (fun _ => True) fs (fs.makeNested paths).1 := extends_makeNested fun _ _ _ _ => trivial
  rwa [h] at hextends

/-- Directories are made on the way to the one that is wanted. -/
theorem extends_makeDirectories (fs : Files) (p : Path) : Extends (· ∈ fs.way p) fs (fs.makeDirectories p).1 := by
  unfold makeDirectories
  split
  · exact .refl _ fs
  · refine extends_makeNested fun q hq v hv => ?_
    rcases List.mem_cons.1 hq with rfl | hq
    · exact hv
    · exact way_above hq hv

end Extends

/-! ## Writing -/

/-- There is a file at a location or nothing, so that a file can be written there. -/
def Writable (fs : Files) (loc : Location) : Prop :=
  ∀ e, fs.entry? loc = some e → ∃ bytes, e = .file bytes

theorem Writable.ne_directory {fs : Files} {loc : Location} (h : fs.Writable loc) :
    fs.entry? loc ≠ some .directory := by
  intro hdirectory
  obtain ⟨bytes, hfile⟩ := h _ hdirectory
  cases hfile

theorem write_eq_ok_iff {fs written : Files} {p : Path} {content : ByteArray} :
    fs.write p content = .ok written ↔ ∃ loc, fs.resolve p = .ok loc ∧ fs.Writable loc ∧
      written = fs.put loc (.file content) := by
  unfold write
  cases fs.resolve p with
  | error e => simp [bind, Except.bind]
  | ok loc =>
    simp only [bind, Except.bind, Except.ok.injEq, exists_eq_left', Writable]
    cases fs.entry? loc with
    | none => simp [eq_comm]
    | some e => cases e <;> simp [eq_comm]

theorem walk_put {fs : Files} {loc : Location} (hloc : fs.entry? loc ≠ some .directory) (e : Entry) {start v : Location}
    {pieces : List Path.Name} (h : fs.walk start pieces = .ok v) : (fs.put loc e).walk start pieces = .ok v := by
  induction pieces generalizing start with
  | nil => exact h
  | cons n r ih =>
    rw [walk_cons] at h ⊢
    split at h
    · cases h
    · cases h
    · cases h
    · next hstart =>
      rw [entry?_put, if_neg, hstart]
      · exact ih h
      · -- only directories are gone through
        rintro ⟨-, rfl⟩
        exact hloc hstart

section Write

variable {fs written : Files} {p : Path} {content : ByteArray} (h : fs.write p content = .ok written)
include h

theorem resolve_write {q : Path} {v : Location} (hq : fs.resolve q = .ok v) : written.resolve q = .ok v := by
  obtain ⟨loc, -, hloc, rfl⟩ := write_eq_ok_iff.1 h
  unfold resolve at hq ⊢
  split at hq
  · cases hq
  · next hne =>
    rw [if_neg hne]
    exact walk_put hloc.ne_directory _ hq

theorem entry?_write {v : Location} (hv : fs.resolve p ≠ .ok v) : written.entry? v = fs.entry? v := by
  obtain ⟨loc, hp, -, rfl⟩ := write_eq_ok_iff.1 h
  rw [entry?_put, if_neg]
  rintro ⟨-, rfl⟩
  exact hv hp

theorem read_write : written.read p = .ok content := by
  obtain ⟨loc, hp, hloc, hwritten⟩ := write_eq_ok_iff.1 h
  refine read_eq_ok_iff.2 ⟨loc, resolve_write h hp, ?_⟩
  have hroot : loc ≠ [] := by
    rintro rfl
    exact hloc.ne_directory rfl
  rw [hwritten, entry?_put, if_pos ⟨hroot, rfl⟩]

/-- A file is read as before, unless it is the one that was written. -/
theorem read_write_of_ne {q : Path} {bytes : ByteArray} (hq : fs.read q = .ok bytes)
    (hne : written.resolve q ≠ written.resolve p) : written.read q = .ok bytes := by
  obtain ⟨v, hv, he⟩ := read_eq_ok_iff.1 hq
  refine read_eq_ok_iff.2 ⟨v, resolve_write h hv, ?_⟩
  rw [entry?_write h, he]
  intro hp
  rw [resolve_write h hv, resolve_write h hp] at hne
  exact hne rfl

/-- A file that held what is written holds it still. -/
theorem read_write_same {q : Path} (hq : fs.read q = .ok content) : written.read q = .ok content := by
  by_cases hne : written.resolve q = written.resolve p
  · have hp := read_write h
    obtain ⟨loc, hloc, he⟩ := read_eq_ok_iff.1 hp
    exact read_eq_ok_iff.2 ⟨loc, hne.trans hloc, he⟩
  · exact read_write_of_ne h hq hne

end Write

/-- A place for a file that is reached once directories are made could be read before or was not found. -/
theorem Extends.read_error {new : Location → Prop} {fs made : Files} (hmade : Extends new fs made) {p : Path}
    {loc : Location} (hp : made.resolve p = .ok loc) (hloc : made.Writable loc) {cause : Error}
    (hcause : fs.read p = .error cause) : cause = .notFound := by
  have hstat : fs.stat p = .error .notFound ∨ ∃ bytes, fs.stat p = .ok (.file bytes) := by
    rcases hmade.without.stat_or p with hsame | hmissing
    · rw [hsame, stat, hp]
      dsimp only [bind, Except.bind]
      cases he : made.entry? loc with
      | none => exact .inl rfl
      | some e =>
        obtain ⟨bytes, rfl⟩ := hloc e he
        exact .inr ⟨bytes, rfl⟩
    · exact .inl hmissing
  unfold Files.read at hcause
  rcases hstat with hstat | ⟨bytes, hstat⟩
  · rw [hstat] at hcause
    cases hcause
    rfl
  · rw [hstat] at hcause
    cases hcause

end ClassAtlas.Files
