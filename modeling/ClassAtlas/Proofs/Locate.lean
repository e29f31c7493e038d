/-
Choosing the stylesheet of a workspace. The copy of the project is chosen if its path leads anywhere, and then nothing
else is looked at or written (`Sheet.Chosen.project`). Otherwise the fallback is chosen, which has then to be made sure
of: whatever becomes of that, nothing is touched but the copy of the built-in stylesheet and the directories that it
lacks (`Fallback.Touches`), and choosing fails where that fails. It fails at once where the cache of the user is not known
(`Sheet.ChosenInstead.homeless`).
-/
import ClassAtlas.Proofs.Fallback

namespace ClassAtlas

/-! ## Where paths lead -/

namespace Files

/-- Whether the system lets it be seen that something is there. -/
def Entry.isSeen : Entry → Bool
  | .refused seen _ => seen
  | .file _ | .directory => true

/-- A path leads to an entry: it goes through directories only, and the entry stands where it ends and can be seen. -/
def Leads (fs : Files) (p : Path) (e : Entry) : Prop :=
  (∀ u ∈ (fs.way p).dropLast, fs.entry? u = some .directory) ∧
    ∃ loc, (fs.way p).getLast? = some loc ∧ fs.entry? loc = some e ∧ e.isSeen = true

theorem stat_eq_ok_iff {fs : Files} {p : Path} (hp : p.bytes ≠ []) {e : Entry} :
    fs.stat p = .ok e ↔ fs.Leads p e := by
  obtain ⟨a, n, hpieces⟩ := (List.eq_nil_or_concat p.pieces).resolve_left (Path.piecesOf_ne_nil p.bytes)
  rw [List.concat_eq_append] at hpieces
  have hresolve : ∀ v, fs.resolve p = .ok v ↔
      (∀ u ∈ trail (fs.origin p) a, fs.entry? u = some .directory) ∧ v = goal (fs.origin p) (a ++ [n]) := by
    intro v
    rw [resolve, if_neg hp, hpieces, walk_concat_eq_ok_iff]
  have hstat : fs.stat p = .ok e ↔ ∃ v, fs.resolve p = .ok v ∧ fs.entry? v = some e ∧ e.isSeen = true := by
    unfold stat
    cases fs.resolve p with
    | error cause => simp [bind, Except.bind]
    | ok v =>
      simp only [bind, Except.bind, Except.ok.injEq, exists_eq_left']
      cases fs.entry? v with
      | none => simp
      | some there =>
        cases there with
        | refused seen reason => cases seen <;> cases e <;> simp +contextual [Entry.isSeen]
        | _ => cases e <;> simp [Entry.isSeen]
  rw [hstat, Leads, way, hpieces, trail_concat, List.dropLast_concat, List.getLast?_concat]
  simp only [hresolve, and_assoc, exists_and_left, exists_eq_left, Option.some.injEq, exists_eq_left']

end Files

/-! ## What the fallback takes -/

namespace Fallback

theorem target_placed {user : User} {directory : Path} (h : directoryOf user = .ok directory) :
    target (.builtIn user) = .ok (copyIn directory) := by
  simp only [target, h]
  rfl

/-- What may become of files for the sake of a fallback. A given file takes nothing, and neither does the built-in one if
the user's cache is not known. If it is, each location is as it was, or it is a directory that was missing on the way to
the copy, or the copy. -/
inductive Touches (fs : Files) : Fallback → Files → Prop
  | file (path : Path) : Touches fs (.file path) fs
  | homeless {user : User} {cause : String} (h : user.home = .error cause) : Touches fs (.builtIn user) fs
  | builtIn {user : User} {directory : Path} (h : directoryOf user = .ok directory) {files : Files}
      (working : files.working = fs.working)
      (each : ∀ loc, files.entry? loc = fs.entry? loc ∨
        fs.entry? loc = none ∧ loc ∈ fs.way directory ∧ files.entry? loc = some .directory ∨
        loc = copyAt fs directory ∧ files.entry? loc = some (.file content)) :
    Touches fs (.builtIn user) files

section Materializes

variable {fs : Files} {directory : Path} {o : Outcome (Except IndexError Path)} (h : Materializes fs directory o)
include h

theorem Materializes.working : o.files.working = fs.working := by
  obtain ⟨made, hmade, hfiles | ⟨-, hwrite⟩⟩ := h.exists_made
  · rw [hfiles, hmade.working]
  · obtain ⟨loc, -, -, hput⟩ := Files.write_eq_ok_iff.1 hwrite
    rw [hput]
    exact hmade.working

theorem Materializes.entry?_copyAt {path : Path} (hpath : o.result = .ok path) :
    o.files.entry? (copyAt fs directory) = some (.file content) := by
  have hread := h.read_copy hpath
  rw [(h.events hpath).1] at hread
  obtain ⟨loc, hloc, hentry⟩ := Files.read_eq_ok_iff.1 hread
  rwa [(resolve_copyIn.1 hloc).2, copyAt_of_working h.working] at hentry

theorem Materializes.touches {user : User} (hdirectory : directoryOf user = .ok directory) :
    Touches fs (.builtIn user) o.files := by
  refine .builtIn hdirectory h.working fun loc => ?_
  by_cases hcopy : (∃ path, o.result = .ok path) ∧ loc = copyAt fs directory
  · obtain ⟨⟨path, hpath⟩, rfl⟩ := hcopy
    exact .inr (.inr ⟨rfl, h.entry?_copyAt hpath⟩)
  · -- anything else that was there is there still, and what is new are directories
    have hkept : ∀ e, fs.entry? loc = some e → o.files.entry? loc = some e := fun e he =>
      h.kept_entry he fun path hpath hloc => hcopy ⟨⟨path, hpath⟩, hloc⟩
    cases hold : fs.entry? loc with
    | some e => exact .inl (hkept e hold)
    | none =>
      cases hnew : o.files.entry? loc with
      | none => exact .inl rfl
      | some e =>
        rcases h.added hnew with hsame | ⟨rfl, hway⟩ | hat
        · rw [hold] at hsame
          cases hsame
        · exact .inr (.inl ⟨rfl, hway, rfl⟩)
        · exact absurd hat hcopy

end Materializes

/-- Making sure of a fallback: a given file is taken as it is, the built-in stylesheet is refused without a home, and
else its copy is made sure of in the cache of the user. -/
inductive Resolves (fs : Files) : Fallback → Outcome (Except IndexError Path) → Prop
  | file (path : Path) : Resolves fs (.file path) ⟨fs, [], .ok path⟩
  | homeless {user : User} {cause : String} (h : user.home = .error cause) :
    Resolves fs (.builtIn user) ⟨fs, [], .error (.noCacheDirectory cause)⟩
  | placed {user : User} {directory : Path} {o : Outcome (Except IndexError Path)} (h : directoryOf user = .ok directory)
      (ho : Materializes fs directory o) : Resolves fs (.builtIn user) o

theorem resolves (fs : Files) (fallback : Fallback) : Resolves fs fallback (fallback.resolve fs) := by
  cases fallback with
  | file path => exact .file path
  | builtIn user =>
    cases hdirectory : directoryOf user with
    | error e =>
      obtain ⟨cause, hhome, rfl⟩ := directoryOf_eq_error_iff.1 hdirectory
      rw [resolve_unplaced fs hdirectory]
      exact .homeless hhome
    | ok directory =>
      rw [resolve_placed fs hdirectory]
      exact .placed hdirectory (materializes fs directory)

section Resolves

variable {fs : Files} {fallback : Fallback} {o : Outcome (Except IndexError Path)} (h : Resolves fs fallback o)
include h

theorem Resolves.touches : Touches fs fallback o.files := by
  cases h with
  | file path => exact .file path
  | homeless hhome => exact .homeless hhome
  | placed hdirectory ho => exact ho.touches hdirectory

theorem Resolves.target {path : Path} (hpath : o.result = .ok path) : fallback.target = .ok path := by
  cases h with
  | file given => cases hpath; rfl
  | homeless hhome => cases hpath
  | placed hdirectory ho => rw [target_placed hdirectory, (ho.events hpath).1]

end Resolves

end Fallback

/-! ## Choosing -/

namespace Sheet

/-- The fallback was chosen for a reason: its file, if the fallback can be made sure of, and nothing but what that takes
has been touched. -/
structure ChosenInstead (fs : Files) (fallback : Fallback) (reason : FallbackReason) (before : List Event)
    (o : Outcome (Except IndexError Sheet)) : Prop where
  ok_iff : ∀ sheet, o.result = .ok sheet ↔ ∃ path, (fallback.resolve fs).result = .ok path ∧
    fallback.target = .ok path ∧ sheet = ⟨path, .fallback reason⟩
  error_iff : ∀ e, o.result = .error e ↔ (fallback.resolve fs).result = .error e
  events : o.events = before ++ (fallback.resolve fs).events
  files : o.files = (fallback.resolve fs).files
  touches : fallback.Touches fs o.files
  /-- Without a home directory there is no place for the built-in stylesheet: that is the error, and no file is touched. -/
  homeless : ∀ user cause, fallback = .builtIn user → user.home = .error cause →
    o = ⟨fs, before, .error (.noCacheDirectory cause)⟩

theorem chosenInstead_useFallback (fs : Files) (fallback : Fallback) (reason : FallbackReason) (before : List Event) :
    ChosenInstead fs fallback reason before (locate.useFallback fs fallback reason before) where
  ok_iff sheet := by
    unfold locate.useFallback
    cases hfound : (fallback.resolve fs).result with
    | error e => simp [hfound, Except.map]
    | ok path => simp [hfound, Except.map, (Fallback.resolves fs fallback).target hfound, eq_comm]
  error_iff e := by
    unfold locate.useFallback
    cases hfound : (fallback.resolve fs).result <;> simp [hfound, Except.map]
  events := rfl
  files := rfl
  touches := (Fallback.resolves fs fallback).touches
  homeless := by
    rintro user cause rfl hhome
    unfold locate.useFallback
    rw [Fallback.resolve_unplaced fs (Fallback.directoryOf_eq_error_iff.2 ⟨cause, hhome, rfl⟩)]
    simp [Except.map]

/-- What is located is the copy of the project or the fallback. -/
theorem locate_cases (fs : Files) (root : Option Path) (fallback : Fallback) :
    (∃ r, root = some r ∧ locate fs root fallback = ⟨fs, [], .ok ⟨r.join projectPath, .project⟩⟩) ∨
      ∃ reason before, locate fs root fallback = locate.useFallback fs fallback reason before := by
  unfold locate
  cases root with
  | none => exact .inr ⟨_, _, rfl⟩
  | some r =>
    dsimp only
    split
    · exact .inl ⟨r, rfl, rfl⟩
    · exact .inr ⟨_, _, rfl⟩

/-- The stylesheet of a workspace has been chosen. -/
structure Chosen (fs : Files) (root : Option Path) (fallback : Fallback) (o : Outcome (Except IndexError Sheet)) :
    Prop where
  /-- The copy of the project is chosen if its path leads anywhere; that does not hang on the fallback, which need not
  even have a place. -/
  project : ∀ r e, root = some r → fs.Leads (r.join projectPath) e →
    o = ⟨fs, [], .ok ⟨r.join projectPath, .project⟩⟩
  /-- If the path of that copy leads nowhere, whatever the cause, the cause is told and the fallback is chosen. -/
  missing : ∀ r, root = some r → (∀ e, ¬ fs.Leads (r.join projectPath) e) →
    ∃ cause, fs.stat (r.join projectPath) = .error cause ∧
      ChosenInstead fs fallback .missing [.noProjectSheet (r.join projectPath) cause] o
  noWorkspace : root = none → ChosenInstead fs fallback .noWorkspace [] o
  /-- With a given file as the fallback no file is ever touched, and choosing does not fail. -/
  given : ∀ path, fallback = .file path → o.files = fs ∧ ∃ sheet, o.result = .ok sheet

theorem isAbsolute_projectPath : projectPath.isAbsolute = false := by
  decide +kernel

theorem bytes_join_projectPath (root : Path) : (root.join projectPath).bytes ≠ [] :=
  root.bytes_join isAbsolute_projectPath (by decide +kernel)

theorem locate_of_leads {fs : Files} {root : Path} {e : Files.Entry} (h : fs.Leads (root.join projectPath) e)
    (fallback : Fallback) : locate fs (some root) fallback = ⟨fs, [], .ok ⟨root.join projectPath, .project⟩⟩ := by
  unfold locate
  dsimp only
  rw [(Files.stat_eq_ok_iff (bytes_join_projectPath root)).2 h]

/-- Where the path of that copy leads nowhere, the cause is told and the fallback is used. -/
theorem locate_of_leads_nowhere {fs : Files} {root : Path} (h : ∀ e, ¬ fs.Leads (root.join projectPath) e)
    (fallback : Fallback) : ∃ cause, fs.stat (root.join projectPath) = .error cause ∧
      locate fs (some root) fallback =
        locate.useFallback fs fallback .missing [.noProjectSheet (root.join projectPath) cause] := by
  cases hstat : fs.stat (root.join projectPath) with
  | ok e => exact absurd ((Files.stat_eq_ok_iff (bytes_join_projectPath root)).1 hstat) (h e)
  | error cause =>
    refine ⟨cause, rfl, ?_⟩
    unfold locate
    dsimp only
    rw [hstat]

/-- The stylesheet of any workspace is chosen so, with any files and any fallback. -/
theorem chosen_locate (fs : Files) (root : Option Path) (fallback : Fallback) :
    Chosen fs root fallback (locate fs root fallback) := by
  refine {
    project := ?_
    missing := ?_
    noWorkspace := ?_
    given := ?_ }
  · rintro r e rfl hleads
    exact locate_of_leads hleads fallback
  · rintro r rfl hnowhere
    obtain ⟨cause, hstat, hinstead⟩ := locate_of_leads_nowhere hnowhere fallback
    rw [hinstead]
    exact ⟨cause, hstat, chosenInstead_useFallback fs fallback .missing _⟩
  · rintro rfl
    exact chosenInstead_useFallback fs fallback .noWorkspace []
  · rintro path rfl
    rcases locate_cases fs root (.file path) with ⟨r, -, hproject⟩ | ⟨reason, before, hinstead⟩
    · rw [hproject]
      exact ⟨rfl, _, rfl⟩
    · rw [hinstead]
      exact ⟨rfl, _, rfl⟩

/-- Without a workspace and without a home there is no stylesheet. -/
example (fs : Files) (cause : String) :
    (locate fs none (.builtIn ⟨.error cause, none⟩)).result = .error (.noCacheDirectory cause) :=
  rfl

end Sheet

end ClassAtlas
