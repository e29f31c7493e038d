/-
Locating the stylesheet in files of which some are gone. Only certain paths come into play: the project's own
stylesheet and the fallback, with the directories it may have to be made in (`Sheet.paths`). If the ways of
these are clear of what is gone, the same stylesheet is located and read, or the same goes wrong, and the same
is written (`choose_without`).
-/
import ClassAtlas.Proofs.Files.Without
import ClassAtlas.Proofs.Session.Choice

namespace ClassAtlas

open Files (Location)

/-! ## Locating -/

/-- The paths that come into play when a fallback is made sure of; none if it has no place. -/
def Fallback.paths : Fallback → List Path
  | .file path => [path]
  | .builtIn user =>
    match directoryOf user with
    | .error _ => []
    | .ok cache => cache.join (.ofString BuiltIn.fileName) :: cache :: cache.above

theorem Fallback.paths_placed {user : User} {cache : Path} (h : directoryOf user = .ok cache) :
    paths (.builtIn user) = cache.join (.ofString BuiltIn.fileName) :: cache :: cache.above := by
  simp only [paths, h]

/-- The paths that come into play when a stylesheet is located. -/
def Sheet.paths (root : Option Path) (fallback : Fallback) : List Path :=
  (root.map (·.join Sheet.projectPath)).toList ++ fallback.paths

/-- Working on files of which some are gone comes to the same, but for what is gone. -/
structure Outcome.Without {α : Type} (gone : Location → Prop) (fs : Files) (o o' : Outcome α) : Prop where
  files : Files.Without gone o.files o'.files
  working : o.files.working = fs.working
  events : o'.events = o.events
  result : o'.result = o.result

section Locating

variable {gone : Location → Prop} {fs fs' : Files} (h : fs.Without gone fs')
include h

theorem materialize_write_without {directory path : Path} (hpath : fs.Clear gone path)
    (hdirectory : ∀ p ∈ directory :: directory.above, fs.Clear gone p) :
    (Fallback.materialize.write fs directory path).Without gone fs
      (Fallback.materialize.write fs' directory path) := by
  unfold Fallback.materialize.write
  have hmade := h.makeDirectories hdirectory
  generalize fs.makeDirectories directory = made, fs'.makeDirectories directory = made' at hmade ⊢
  obtain ⟨made, result⟩ := made
  obtain ⟨made', result'⟩ := made'
  obtain ⟨rfl, hfiles, hworking⟩ := hmade
  cases result' with
  | error e => exact ⟨hfiles, hworking, rfl, rfl⟩
  | ok _ =>
    have hwritten := hfiles.write (hpath.of_working hworking) Fallback.content
    dsimp only
    generalize made.write path Fallback.content = written, made'.write path Fallback.content = written'
      at hwritten ⊢
    cases hwritten with
    | failed e => exact ⟨hfiles, hworking, rfl, rfl⟩
    | put files working => exact ⟨files, working.trans hworking, rfl, rfl⟩

theorem resolve_without {fallback : Fallback} (hp : ∀ p ∈ fallback.paths, fs.Clear gone p) :
    (fallback.resolve fs).Without gone fs (fallback.resolve fs') := by
  cases fallback with
  | file path => exact ⟨h, rfl, rfl, rfl⟩
  | builtIn user =>
    cases hplace : Fallback.directoryOf user with
    | error e =>
      rw [Fallback.resolve_unplaced fs hplace, Fallback.resolve_unplaced fs' hplace]
      exact ⟨h, rfl, rfl, rfl⟩
    | ok cache =>
      rw [Fallback.paths_placed hplace] at hp
      obtain ⟨hpath, hdirectory⟩ := List.forall_mem_cons.1 hp
      have hwrite := materialize_write_without h hpath hdirectory
      rw [Fallback.resolve_placed fs hplace, Fallback.resolve_placed fs' hplace]
      unfold Fallback.materialize
      dsimp only
      rw [h.readText_eq hpath]
      split
      · split
        · exact ⟨h, rfl, rfl, rfl⟩
        · exact hwrite
      · exact hwrite

theorem locate_without {root : Option Path} {fallback : Fallback}
    (hp : ∀ p ∈ Sheet.paths root fallback, fs.Clear gone p) :
    (Sheet.locate fs root fallback).Without gone fs (Sheet.locate fs' root fallback) := by
  have hfallback : ∀ p ∈ fallback.paths, fs.Clear gone p := fun p hp' => hp p (List.mem_append_right _ hp')
  obtain ⟨hfiles, hworking, hevents, hresult⟩ := resolve_without h hfallback
  have huse : ∀ reason before, (Sheet.locate.useFallback fs fallback reason before).Without gone fs
      (Sheet.locate.useFallback fs' fallback reason before) := fun reason before =>
    ⟨hfiles, hworking, congrArg (before ++ ·) hevents, congrArg (Except.map _) hresult⟩
  cases root with
  | none => exact huse _ _
  | some root =>
    have hproject : fs.Clear gone (root.join Sheet.projectPath) := hp _ List.mem_cons_self
    unfold Sheet.locate
    dsimp only
    rw [h.stat_eq hproject]
    split
    · exact ⟨h, rfl, rfl, rfl⟩
    · exact huse _ _

end Locating

theorem Fallback.mem_paths_of_target {fallback : Fallback} {path : Path} (h : fallback.target = .ok path) :
    path ∈ fallback.paths := by
  cases fallback with
  | file given =>
    cases h
    exact List.mem_cons_self
  | builtIn user =>
    cases hplace : directoryOf user with
    | error e =>
      rw [target, hplace] at h
      cases h
    | ok cache =>
      rw [target_placed hplace] at h
      cases h
      rw [paths_placed hplace]
      exact List.mem_cons_self

/-- A stylesheet that is located has one of the paths that come into play. -/
theorem mem_paths_of_locate {fs : Files} {root : Option Path} {fallback : Fallback} {sheet : Sheet}
    (h : (Sheet.locate fs root fallback).result = .ok sheet) : sheet.path ∈ Sheet.paths root fallback := by
  rcases Sheet.locate_cases fs root fallback with ⟨r, rfl, hproject⟩ | ⟨reason, before, hinstead⟩
  · rw [hproject] at h
    cases h
    exact List.mem_cons_self
  · rw [hinstead, (Sheet.chosenInstead_useFallback fs fallback reason before).ok_iff] at h
    obtain ⟨path, -, htarget, rfl⟩ := h
    exact List.mem_append_right _ (Fallback.mem_paths_of_target htarget)

namespace Session

/-- A session chooses the same stylesheet in files of which some are gone, if none of them lies on the way to
a stylesheet. -/
theorem choose_without {gone : Location → Prop} {fs fs' : Files} (h : fs.Without gone fs') {s : Session}
    (hp : ∀ p ∈ Sheet.paths s.root s.fallback, fs.Clear gone p) :
    (s.choose fs).Without gone fs (s.choose fs') := by
  obtain ⟨hfiles, hworking, hevents, hresult⟩ := locate_without h hp
  refine ⟨hfiles, hworking, hevents, ?_⟩
  unfold choose
  dsimp only
  rw [hresult]
  cases hl : (Sheet.locate fs s.root s.fallback).result with
  | error e => rfl
  | ok sheet =>
    have hclear := (hp _ (mem_paths_of_locate hl)).of_working hworking
    unfold Index.readSheet
    dsimp only [Except.bind]
    rw [hfiles.readText_eq hclear]

end Session

end ClassAtlas
