/-
The stylesheet that a session begins to work on: located first, then read. What can go wrong by then
is that the fallback has no place or cannot be written (`locate_error`), or that the file cannot be read
(`choose_error_iff`); what the beginning comes to is told for both cases (`begin_error`, `begin_ok`).
-/
import ClassAtlas.Proofs.Locate
import ClassAtlas.Proofs.Session.Kept

namespace ClassAtlas

/-! ## Locating -/

/-- Without a workspace the fallback is used. -/
theorem locate_noWorkspace (fs : Files) (fallback : Fallback) :
    Sheet.locate fs none fallback =
      ⟨(fallback.resolve fs).files, (fallback.resolve fs).events,
        (fallback.resolve fs).result.map fun path => ⟨path, .fallback .noWorkspace⟩⟩ := rfl

/-- What can go wrong with a fallback: there is no home directory and so no place for the built-in stylesheet, or its
copy cannot be written. -/
inductive Fallback.FailsWith : Fallback → IndexError → Prop
  | homeless {user : User} {cause : String} (h : user.home = .error cause) :
    FailsWith (.builtIn user) (.noCacheDirectory cause)
  | unwritten {user : User} {directory : Path} (h : Fallback.directoryOf user = .ok directory) (cause : Files.Error) :
    FailsWith (.builtIn user) (.write (Fallback.copyIn directory) cause)

theorem Fallback.Resolves.failsWith {fs : Files} {fallback : Fallback} {o : Outcome (Except IndexError Path)}
    (h : fallback.Resolves fs o) {e : IndexError} (he : o.result = .error e) : fallback.FailsWith e := by
  cases h with
  | file path => cases he
  | homeless hhome => cases he; exact .homeless hhome
  | placed hdirectory ho =>
    obtain ⟨cause, rfl, -⟩ := (ho.refused he).names
    exact .unwritten hdirectory cause

theorem locate_error {fs : Files} {root : Option Path} {fallback : Fallback} {e : IndexError}
    (h : (Sheet.locate fs root fallback).result = .error e) : fallback.FailsWith e := by
  rcases Sheet.locate_cases fs root fallback with ⟨r, -, hproject⟩ | ⟨reason, before, hinstead⟩
  · rw [hproject] at h
    cases h
  · rw [hinstead, (Sheet.chosenInstead_useFallback fs fallback reason before).error_iff] at h
    exact (Fallback.resolves fs fallback).failsWith h

namespace Session

/-! ## Choosing -/

theorem choose_ok_iff (s : Session) (fs : Files) (sheet : Sheet) (css : String) :
    (s.choose fs).result = .ok (sheet, css) ↔
      (Sheet.locate fs s.root s.fallback).result = .ok sheet ∧
        (Sheet.locate fs s.root s.fallback).files.readText sheet.path = .ok css := by
  unfold choose Index.readSheet
  dsimp only
  cases (Sheet.locate fs s.root s.fallback).result with
  | error e => simp [Except.bind]
  | ok found =>
    simp only [Except.bind, Except.ok.injEq]
    cases hr : (Sheet.locate fs s.root s.fallback).files.readText found.path with
    | error c =>
      simp only [Except.mapError, Except.map, reduceCtorEq, false_iff]
      rintro ⟨rfl, h⟩
      rw [hr] at h; cases h
    | ok text =>
      simp only [Except.mapError, Except.map, Except.ok.injEq, Prod.mk.injEq]
      constructor
      · rintro ⟨rfl, rfl⟩; exact ⟨rfl, hr⟩
      · rintro ⟨rfl, h⟩
        rw [hr] at h; cases h; exact ⟨rfl, rfl⟩

theorem choose_error_iff (s : Session) (fs : Files) (e : IndexError) :
    (s.choose fs).result = .error e ↔
      (Sheet.locate fs s.root s.fallback).result = .error e ∨
        ∃ sheet cause, (Sheet.locate fs s.root s.fallback).result = .ok sheet ∧
          (Sheet.locate fs s.root s.fallback).files.readText sheet.path = .error cause ∧
          e = .read sheet.path cause := by
  unfold choose Index.readSheet
  dsimp only
  cases (Sheet.locate fs s.root s.fallback).result with
  | error e' => simp [Except.bind]
  | ok found =>
    simp only [Except.bind, reduceCtorEq, false_or, Except.ok.injEq, exists_and_left, exists_eq_left']
    cases hr : (Sheet.locate fs s.root s.fallback).files.readText found.path with
    | error c => simp [Except.mapError, Except.map, eq_comm]
    | ok text => simp [Except.mapError, Except.map]

/-! ## Beginning -/

section Begin

variable {s : Session} {fs : Files}

/-- A session that cannot choose a stylesheet says so and fails, unless its build is over. -/
theorem begin_error {e : IndexError} (h : (s.choose fs).result = .error e) :
    (s.begin fs).session.build = (s.build.fail e).handle ∧ Event.unavailable e ∈ (s.begin fs).events ∧
      (s.begin fs).notices = if s.hasClient then (s.gatherSettings fs).2.2 ++ [.warning e.notice] else [] := by
  refine ⟨?_, ?_⟩
  · rw [begin_build, h]
  · unfold begin
    dsimp only
    rw [h]
    exact ⟨by simp [follow], rfl⟩

/-- A session that has chosen its stylesheet says so and starts its build, unless one was started. -/
theorem begin_ok {sheet : Sheet} {css : String} (h : (s.choose fs).result = .ok (sheet, css)) :
    (s.begin fs).session.build = (s.build.spawn sheet css).handle ∧ Event.indexing sheet ∈ (s.begin fs).events ∧
      (s.begin fs).notices = if s.hasClient then (s.gatherSettings fs).2.2 ++ [.info sheet.notice] else [] := by
  refine ⟨?_, ?_⟩
  · rw [begin_build, h]
  · unfold begin
    dsimp only
    rw [h]
    exact ⟨by simp [follow], rfl⟩

end Begin

end Session

end ClassAtlas
