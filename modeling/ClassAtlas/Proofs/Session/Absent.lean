/-
A bad source of settings is as if it were absent. Where the editor's options are not accepted, or the file in
the workspace is not, a session goes on as it would without them, through all of its steps: its settings, its
index and its answers are the same, and nothing tells the difference but a warning when the source is left out
(`run_as_if_absent`). And whatever the sources hold, the index is built as it would be without them.

What is compared are two runs. In the other one, step by step, options may be missing from a greeting, and the
files may lack what stands at some locations, as long as no path to a stylesheet goes through these.
-/
import ClassAtlas.Proofs.Session.Isolation
import ClassAtlas.Proofs.Session.Layers
import ClassAtlas.Proofs.Session.Located
import Mathlib.Data.List.Forall2

namespace ClassAtlas

open Files (Location)

/-! ## Leaving out sources of settings -/

/-- Which sources of settings may be left out: which options, and which files and roots of workspaces. -/
structure Sources where
  options : Json → Prop
  file : Files → Path → Prop

/-- All sources, whatever they hold. -/
def Sources.all : Sources := ⟨fun _ => True, fun _ _ => True⟩

/-- The bad ones: options that are not accepted, and a settings file that cannot be read, is no TOML, or gives a
setting of another type. -/
def Sources.rejected : Sources where
  options o := ∃ e, Settings.ofOptions o = .error e
  file fs root := ∃ e, Settings.ofWorkspace fs root = .error e

namespace Session

/-- The files at a step. -/
def Step.files : Step → Files
  | .moment m => m.files
  | .held files => files
  | .brought files _ => files

/-- A step with other files. -/
def Step.withFiles (files : Files) : Step → Step
  | .moment m => .moment { m with files }
  | .held _ => .held files
  | .brought _ result => .brought files result

/-- When a session begins to work, what is gone matters to no stylesheet; it matters to the settings file only if
that may be left out. -/
structure Spares (which : Sources) (s : Session) (gone : Location → Prop) (fs : Files) : Prop where
  sheets : ∀ p ∈ Sheet.paths s.root s.fallback, fs.Clear gone p
  settings : ∀ root, s.root = some root →
    fs.Clear gone (root.join (.ofString Settings.fileName)) ∨ which.file fs root

/-- Another step is a step of a session with sources of settings left out: files without what is gone, and
greetings without options. -/
inductive Omits (which : Sources) (s : Session) (gone : Location → Prop) : Step → Step → Prop
  | files {x : Step} {fs' : Files} : x.files.Without gone fs' →
      (∀ fs, x = .moment ⟨fs, .begin⟩ → Spares which s gone fs) → Omits which s gone x (x.withFiles fs')
  | options {fs fs' : Files} {g : Greeting} {o : Json} : fs.Without gone fs' → g.options = some o →
      which.options o →
      Omits which s gone (.moment ⟨fs, .greet g⟩) (.moment ⟨fs', .greet { g with options := none }⟩)

/-- A step, another in its place, and where files are gone in the other. -/
structure Omission where
  gone : Location → Prop
  step : Step
  other : Step

/-- Sources are left out all along some steps of a session. -/
def OmitsAlong (which : Sources) (s : Session) (number : Nat) : List Omission → Prop
  | [] => True
  | d :: ds => Omits which s d.gone d.step d.other ∧ OmitsAlong which (s.step number d.step).session (number + 1) ds

/-! ## Reading the settings -/

/-- What reading the settings file comes to, if there is a workspace. -/
def readSettings (s : Session) (fs : Files) : Except SettingsError (Option Overrides) :=
  match s.root with
  | none => .ok none
  | some root => Settings.ofWorkspace fs root

/-- Where the settings file is gone, nothing is set. -/
theorem ofWorkspace_gone {gone : Location → Prop} {fs fs' : Files} (h : fs.Without gone fs') {root : Path}
    {loc : Location} (hp : fs.resolve (root.join (.ofString Settings.fileName)) = .ok loc) (hg : gone loc) :
    Settings.ofWorkspace fs' root = .ok none := by
  unfold Settings.ofWorkspace
  dsimp only
  rw [h.readText_gone hp hg]

/-- A file of settings is never refused for the options of an editor. -/
theorem readSettings_error {s : Session} {fs : Files} {e : SettingsError} (h : s.readSettings fs = .error e) :
    ∀ cause, e ≠ .options cause := by
  rintro cause rfl
  unfold readSettings Settings.ofWorkspace at h
  split at h
  · cases h
  · dsimp only at h
    split at h
    · cases h
    · cases h
    · split at h <;> cases h

/-- In files of which some are gone the settings read the same, or there are none, if a file that may be left out
is there no more. -/
theorem readSettings_without {which : Sources} {s : Session} {gone : Location → Prop} {fs fs' : Files}
    (h : fs.Without gone fs') (hs : Spares which s gone fs) :
    s.readSettings fs' = s.readSettings fs ∨
      s.readSettings fs' = .ok none ∧ ∃ root, s.root = some root ∧ which.file fs root := by
  unfold readSettings
  split
  · exact .inl rfl
  · next root hroot =>
    unfold Settings.ofWorkspace
    dsimp only
    rcases hs.settings root hroot with hclear | hfile
    · rw [h.readText_eq hclear]
      exact .inl rfl
    · rcases h.readText_or (root.join (.ofString Settings.fileName)) with hread | hread
      · rw [hread]
        exact .inl rfl
      · rw [hread]
        exact .inr ⟨rfl, root, hroot, hfile⟩

/-! ## A step -/

/-- What one reaction tells more than another: nothing, or that options are ignored, or that a file is, of which
the user is warned if there is an editor. -/
inductive TellsMore (r r' : Reaction) : Prop
  | nothing (events : r.events = r'.events) (notices : r.notices = r'.notices)
  | options {cause : Json.Mismatch} (events : r.events = .settingsIgnored (.options cause) :: r'.events)
      (notices : r.notices = r'.notices)
  | file {e : SettingsError} (ofFile : ∀ cause, e ≠ .options cause)
      (events : r.events = .settingsIgnored e :: r'.events)
      (notices : r.notices = (if r.session.hasClient then [.warning e.message] else []) ++ r'.notices)

/-- The stylesheet that a reaction says it has located and is about to index. -/
def Reaction.located? (r : Reaction) : Option Sheet :=
  r.events.findSome? fun
    | .indexing sheet => some sheet
    | _ => none

/-- A reaction is as another but for what it tells, and for the files that are gone in the other. -/
structure AsIfAbsent (gone : Location → Prop) (r r' : Reaction) : Prop where
  session : r'.session = r.session
  answers : r'.answers = r.answers
  files : r.files.Without gone r'.files
  told : TellsMore r r'
  located : r'.located? = r.located?

/-- What is told more is not which stylesheet is located. -/
theorem TellsMore.located {r r' : Reaction} (h : TellsMore r r') : r'.located? = r.located? := by
  unfold Reaction.located?
  cases h with
  | nothing events _ => rw [events]
  | options events _ =>
    rw [events]
    rfl
  | file _ events _ =>
    rw [events]
    rfl

theorem asIfAbsent_of_told {gone : Location → Prop} {r r' : Reaction} (session : r'.session = r.session)
    (answers : r'.answers = r.answers) (files : r.files.Without gone r'.files) (told : TellsMore r r') :
    AsIfAbsent gone r r' :=
  ⟨session, answers, files, told, told.located⟩

/-- A file that is not accepted adds a warning to what is gathered without any. -/
theorem gatherSettings_ignored {s : Session} {fs fs' : Files} {e : SettingsError} (h : s.readSettings fs = .error e)
    (h' : s.readSettings fs' = .ok none) :
    s.gatherSettings fs =
      ((s.gatherSettings fs').1, .settingsIgnored e :: (s.gatherSettings fs').2.1,
        .warning e.message :: (s.gatherSettings fs').2.2) := by
  unfold readSettings at h h'
  unfold gatherSettings
  cases hroot : s.root with
  | none =>
    rw [hroot] at h
    cases h
  | some root =>
    rw [hroot] at h h'
    dsimp only at h h' ⊢
    rw [h, h']
    rfl

theorem gatherSettings_congr {s : Session} {fs fs' : Files} (h : s.readSettings fs' = s.readSettings fs) :
    s.gatherSettings fs' = s.gatherSettings fs := by
  unfold readSettings at h
  unfold gatherSettings
  cases hroot : s.root with
  | none => rfl
  | some root =>
    rw [hroot] at h
    dsimp only at h ⊢
    rw [h]

theorem asIfAbsent_begin {s : Session} {gone : Location → Prop} {fs fs' : Files} (h : fs.Without gone fs')
    (hs : Spares .rejected s gone fs) : AsIfAbsent gone (s.begin fs) (s.begin fs') := by
  obtain ⟨hfiles, -, hevents, hresult⟩ := choose_without h hs.sheets
  unfold begin
  dsimp only
  rw [hresult, hevents]
  rcases readSettings_without h hs with hread | ⟨hread, root, hroot, e, he⟩
  · rw [gatherSettings_congr hread]
    split <;> exact asIfAbsent_of_told rfl rfl hfiles (.nothing rfl rfl)
  · -- the file is there no more, and what could be left out was a file that is not accepted
    have hrejected : s.readSettings fs = .error e := by
      unfold readSettings
      rw [hroot]
      exact he
    have hfile := readSettings_error hrejected
    rw [gatherSettings_ignored hrejected hread]
    have hnotices : ∀ notices : List Notice,
        (if s.hasClient then .warning e.message :: notices else []) =
          (if s.hasClient then [.warning e.message] else []) ++ if s.hasClient then notices else [] := by
      intro notices
      split <;> rfl
    split <;> exact asIfAbsent_of_told rfl rfl hfiles (.file hfile rfl (hnotices _))

/-- Options that are not accepted are told, and that is all. -/
theorem greet_rejected (s : Session) {g : Greeting} {o : Json} {e : Json.Mismatch} (ho : g.options = some o)
    (he : Settings.ofOptions o = .error e) :
    s.greet g = ((s.greet { g with options := none }).1, [.settingsIgnored (.options e)]) := by
  unfold greet
  dsimp only
  rw [ho]
  dsimp only
  rw [he]
  rfl

/-- Only the beginning of the work looks at the files. -/
theorem step_withFiles (s : Session) (n : Nat) {x : Step} (hx : ∀ fs, x ≠ .moment ⟨fs, .begin⟩) (fs' : Files) :
    s.step n (x.withFiles fs') = { s.step n x with files := fs' } ∧ (s.step n x).files = x.files := by
  cases x with
  | held files => exact ⟨rfl, rfl⟩
  | brought files result => exact ⟨rfl, rfl⟩
  | moment m =>
    obtain ⟨fs, input⟩ := m
    cases input with
    | begin => exact absurd rfl (hx fs)
    | asked uri p =>
      unfold Step.withFiles Step.files step react ask
      dsimp only
      split
      · exact ⟨rfl, rfl⟩
      · split <;> exact ⟨rfl, rfl⟩
    | _ => exact ⟨rfl, rfl⟩

/-- A step from which only rejected sources are left out comes to the same but for what is told of them. -/
theorem asIfAbsent_step {s : Session} {gone : Location → Prop} {x x' : Step}
    (h : Omits .rejected s gone x x') (n : Nat) : AsIfAbsent gone (s.step n x) (s.step n x') := by
  cases h with
  | options hfiles ho he =>
    obtain ⟨e, he⟩ := he
    unfold step react
    dsimp only
    rw [greet_rejected s ho he]
    exact asIfAbsent_of_told rfl rfl hfiles (.options rfl rfl)
  | @files _ fs' hfiles hspares =>
    by_cases hbegins : ∃ fs, x = .moment ⟨fs, .begin⟩
    · obtain ⟨fs, rfl⟩ := hbegins
      exact asIfAbsent_begin hfiles (hspares fs rfl)
    · obtain ⟨hother, hsame⟩ := step_withFiles s n (fun fs hx => hbegins ⟨fs, hx⟩) fs'
      rw [hother]
      refine asIfAbsent_of_told rfl rfl ?_ (.nothing rfl rfl)
      rw [hsame]
      exact hfiles

theorem asIfAbsent_run {s : Session} {n : Nat} {ds : List Omission} (h : OmitsAlong .rejected s n ds) :
    List.Forall₂ (fun d r => AsIfAbsent d.gone r.1 r.2) ds
      ((s.run n (ds.map (·.step))).zip (s.run n (ds.map (·.other)))) := by
  induction ds generalizing s n with
  | nil => exact .nil
  | cons d ds ih =>
    obtain ⟨hd, hds⟩ := h
    have hfirst := asIfAbsent_step hd n
    refine .cons hfirst ?_
    rw [hfirst.session]
    exact ih hds

/-! ## Building, whatever the sources hold -/

/-- Two sessions have come equally far with the index, and will look for its stylesheet in the same places. -/
structure SameIndex (s t : Session) : Prop where
  root : t.root = s.root
  fallback : t.fallback = s.fallback
  build : s.build.AsFar t.build

/-- Whatever is no greeting is of the same effect on two indexes if it is of the same effect on their builds. -/
theorem SameIndex.react {s t : Session} (h : SameIndex s t) {n : Nat} {m m' : Moment}
    (hm : ∀ g, m.input ≠ .greet g) (hm' : ∀ g, m'.input ≠ .greet g)
    (hbuild : (s.react n m).session.build.AsFar (t.react n m').session.build) :
    SameIndex (s.react n m).session (t.react n m').session := by
  have hs := kept_react s n hm
  have ht := kept_react t n hm'
  exact ⟨ht.root.trans (h.root.trans hs.root.symm), ht.fallback.trans (h.fallback.trans hs.fallback.symm), hbuild⟩

theorem SameIndex.greet {s t : Session} (h : SameIndex s t) {g g' : Greeting} (hroot : g'.rootPath = g.rootPath) :
    SameIndex (s.greet g).1 (t.greet g').1 := by
  rw [greet_session, greet_session]
  exact ⟨by rw [hroot, h.root], h.fallback, h.build⟩

theorem ask_asFar (s : Session) (fs : Files) (n : Nat) (uri : Uri) (p : Position) :
    s.build.AsFar (s.ask fs n uri p).session.build := by
  rcases ask_build s fs n uri p with h | ⟨document, -, -, -, h⟩
  · rw [h]
    exact ⟨rfl, rfl⟩
  · rw [h]
    exact ⟨rfl, rfl⟩

theorem choose_congr {s t : Session} (h : SameIndex s t) (fs : Files) : t.choose fs = s.choose fs := by
  unfold choose
  rw [h.root, h.fallback]

theorem begin_asFar {s t : Session} (h : SameIndex s t) {gone : Location → Prop} {fs fs' : Files}
    (hfiles : fs.Without gone fs') (hp : ∀ p ∈ Sheet.paths s.root s.fallback, fs.Clear gone p) :
    (s.begin fs).session.build.AsFar (t.begin fs').session.build := by
  rw [begin_build, begin_build, choose_congr h, (choose_without hfiles hp).result]
  split
  · exact Build.fail_asFar h.build _
  · exact Build.spawn_asFar h.build _ _

theorem step_sameIndex {which : Sources} {s t : Session} (h : SameIndex s t) {gone : Location → Prop} {x x' : Step}
    (hx : Omits which s gone x x') (n : Nat) : SameIndex (s.step n x).session (t.step n x').session := by
  cases hx with
  | options hfiles ho hwhich => exact h.greet rfl
  | @files _ fs' hfiles hspares =>
    cases x with
    | held files => exact ⟨h.root, h.fallback, Build.start_asFar h.build⟩
    | brought files result => exact ⟨h.root, h.fallback, Build.publish_asFar h.build result⟩
    | moment m =>
      obtain ⟨fs, input⟩ := m
      by_cases hgreets : ∃ g, input = .greet g
      · obtain ⟨g, rfl⟩ := hgreets
        exact h.greet rfl
      · -- the root is kept, so it remains to see what becomes of the build
        have hgreets : ∀ g, input ≠ .greet g := fun g hg => hgreets ⟨g, hg⟩
        have hbuild : (s.react n ⟨fs, input⟩).session.build.AsFar (t.react n ⟨fs', input⟩).session.build := by
          cases input with
          | greet g => exact absurd rfl (hgreets g)
          | begin => exact begin_asFar h hfiles (hspares fs rfl).sheets
          | buildEnds => exact Build.conclude_asFar h.build _
          | buildBreaks text => exact Build.conclude_asFar h.build _
          | asked uri p =>
            have hs := ask_asFar s fs n uri p
            have ht := ask_asFar t fs' n uri p
            exact ⟨ht.state.trans (h.build.state.trans hs.state.symm), ht.job.trans (h.build.job.trans hs.job.symm)⟩
          | _ => exact h.build
        exact h.react hgreets hgreets hbuild

theorem run_sameIndex {which : Sources} {s t : Session} (h : SameIndex s t) {n : Nat} {ds : List Omission}
    (hds : OmitsAlong which s n ds) :
    List.Forall₂ (fun r r' => SameIndex r.session r'.session) (s.run n (ds.map (·.step)))
      (t.run n (ds.map (·.other))) := by
  induction ds generalizing s t n with
  | nil => exact .nil
  | cons d ds ih =>
    obtain ⟨hd, hds⟩ := hds
    have hfirst := step_sameIndex h hd n
    exact .cons hfirst (ih hfirst hds)

/-- What may be left out of some sources may be left out of all. -/
theorem Omits.all {which : Sources} {s : Session} {gone : Location → Prop} {x x' : Step}
    (h : Omits which s gone x x') : Omits .all s gone x x' := by
  cases h with
  | files hfiles hspares =>
    exact .files hfiles fun fs hx => ⟨(hspares fs hx).sheets, fun _ _ => .inr trivial⟩
  | options hfiles ho _ => exact .options hfiles ho trivial

theorem OmitsAlong.all {which : Sources} {s : Session} {n : Nat} {ds : List Omission}
    (h : OmitsAlong which s n ds) : OmitsAlong .all s n ds := by
  induction ds generalizing s n with
  | nil => exact trivial
  | cons d ds ih => exact ⟨h.1.all, ih h.2⟩

/-- When sources of settings are left out that are not accepted, all steps of a session come to the same, but for
what is told of these sources. And when any sources are left out, accepted or not, the index comes as far at every
step. -/
theorem run_as_if_absent (s : Session) (n : Nat) (ds : List Omission) :
    (OmitsAlong .rejected s n ds →
      List.Forall₂ (fun d r => AsIfAbsent d.gone r.1 r.2) ds
        ((s.run n (ds.map (·.step))).zip (s.run n (ds.map (·.other))))) ∧
    (OmitsAlong .all s n ds →
      List.Forall₂ (fun r r' => SameIndex r.session r'.session) (s.run n (ds.map (·.step)))
        (s.run n (ds.map (·.other)))) :=
  ⟨asIfAbsent_run, run_sameIndex ⟨rfl, rfl, rfl, rfl⟩⟩

/-- A session in a workspace `/w`, with the fallback `/a`. -/
def sampleInWorkspace : Session := .new true (.file ⟨[0x2F, 0x61]⟩) (some ⟨[0x2F, 0x77]⟩)

/-- Where the settings file of the workspace is. -/
def sampleSettings : Location := [[0x77], Text.Utf8.encode Settings.fileName.toList]

/-- The workspace with a settings file that gives a number where a boolean should be, and the fallback. -/
def sampleBadWorkspace : Files :=
  ⟨[([[0x77]], .directory), (sampleSettings, .file "waitForIndex = 1".toUTF8),
    ([[0x61]], .file ".a{}".toUTF8)], []⟩

/-- A session in which both sources of settings are bad. In the other one they are missing. -/
def sampleOmissions : List Omission :=
  [⟨fun _ => False, .moment ⟨sampleBadWorkspace, .greet ⟨none, [], some sampleMistake⟩⟩,
      .moment ⟨sampleBadWorkspace, .greet ⟨none, [], none⟩⟩⟩,
    ⟨(sampleSettings <+: ·), .moment ⟨sampleBadWorkspace, .begin⟩,
      .moment ⟨sampleBadWorkspace.erase sampleSettings, .begin⟩⟩,
    ⟨fun _ => False, .moment ⟨.empty [], .buildEnds⟩, .moment ⟨.empty [], .buildEnds⟩⟩]

/-- The file that is not accepted is there no more in the other session, and both sessions come to the same. -/
theorem sampleOmissions_as_if_absent :
    (∃ e, Settings.ofWorkspace sampleBadWorkspace ⟨[0x2F, 0x77]⟩ = .error e) ∧
    Settings.ofWorkspace (sampleBadWorkspace.erase sampleSettings) ⟨[0x2F, 0x77]⟩ = .ok none ∧
    OmitsAlong .rejected sampleInWorkspace 0 sampleOmissions ∧
    OmitsAlong .all sampleInWorkspace 0 sampleOmissions ∧
    List.Forall₂ (fun d r => AsIfAbsent d.gone r.1 r.2) sampleOmissions
      ((sampleInWorkspace.run 0 (sampleOmissions.map (·.step))).zip
        (sampleInWorkspace.run 0 (sampleOmissions.map (·.other)))) ∧
    List.Forall₂ (fun r r' => SameIndex r.session r'.session)
      (sampleInWorkspace.run 0 (sampleOmissions.map (·.step)))
      (sampleInWorkspace.run 0 (sampleOmissions.map (·.other))) := by
  have hoptions : ∃ e, Settings.ofOptions sampleMistake = .error e := ⟨_, rfl⟩
  have hfile : ∃ e, Settings.ofWorkspace sampleBadWorkspace ⟨[0x2F, 0x77]⟩ = .error e := by
    have hbad : (Settings.ofWorkspace sampleBadWorkspace ⟨[0x2F, 0x77]⟩).isOk = false := by decide +kernel
    cases hread : Settings.ofWorkspace sampleBadWorkspace ⟨[0x2F, 0x77]⟩ with
    | error e => exact ⟨e, rfl⟩
    | ok layer =>
      rw [hread] at hbad
      cases hbad
  have herased : sampleBadWorkspace.Without (sampleSettings <+: ·) (sampleBadWorkspace.erase sampleSettings) :=
    Files.without_erase _ (by decide)
  have hleads : sampleBadWorkspace.resolve (Path.join ⟨[0x2F, 0x77]⟩ (.ofString Settings.fileName)) =
      .ok sampleSettings := rfl
  have hnone : Settings.ofWorkspace (sampleBadWorkspace.erase sampleSettings) ⟨[0x2F, 0x77]⟩ = .ok none :=
    ofWorkspace_gone herased hleads (List.prefix_refl _)
  have hkept : ∀ fs : Files, fs.Without (fun _ => False) fs := fun _ => ⟨rfl, nofun, fun _ _ => rfl⟩
  have hsheets : ∀ p ∈ Sheet.paths (some ⟨[0x2F, 0x77]⟩) (.file ⟨[0x2F, 0x61]⟩),
      sampleBadWorkspace.Clear (sampleSettings <+: ·) p := by
    unfold Files.Clear
    decide +kernel
  have hrejected : OmitsAlong .rejected sampleInWorkspace 0 sampleOmissions := by
    refine ⟨.options (hkept _) rfl hoptions, ?_, .files (hkept _) nofun, trivial⟩
    refine .files herased ?_
    rintro fs ⟨⟩
    refine ⟨hsheets, ?_⟩
    rintro root ⟨⟩
    exact .inr hfile
  obtain ⟨hsame, hindex⟩ := run_as_if_absent sampleInWorkspace 0 sampleOmissions
  exact ⟨hfile, hnone, hrejected, hrejected.all, hsame hrejected, hindex hrejected.all⟩

end Session

end ClassAtlas
