/-
The first build of a session. A build that was started ends with the first result that comes to it,
and stays so (`first_build_decides`). That is the outcome of its text, unless it is broken off, or
the session begins to work anew in the meantime and fails: then the error of the second beginning
ends the build of the first (`ending?`). A second beginning that does not fail changes nothing.
-/
import ClassAtlas.Proofs.Session.Building

namespace ClassAtlas.Session

/-! ## What may end a build -/

/-- A moment starts the build of a stylesheet: the session begins to work, no build was started
before, and the stylesheet is located and read. -/
structure StartsBuild (s : Session) (m : Moment) (sheet : Sheet) (css : String) : Prop where
  input : m.input = .begin
  unstarted : s.build.state = .unstarted
  chosen : (s.choose m.files).result = .ok (sheet, css)

/-- The result that a moment brings to the build of a stylesheet that is going on. -/
def ending? (s : Session) (sheet : Sheet) (css : String) (m : Moment) : Option (Except IndexError Index) :=
  match m.input with
  | .buildEnds => some (Index.ofText sheet css).1
  | .buildBreaks text => some (.error (.interrupted text))
  | .begin =>
    match (s.choose m.files).result with
    | .error e => some (.error e)
    | .ok _ => none
  | _ => none

/-- The first result that some moments bring to the build of a stylesheet. -/
def outcome? (s : Session) (number : Nat) (sheet : Sheet) (css : String) : List Moment → Option (Except IndexError Index)
  | [] => none
  | m :: ms => (s.ending? sheet css m).or ((s.react number m).session.outcome? (number + 1) sheet css ms)

/-- Whether a moment is the one at which the build that was started comes to its end by itself. -/
def Moment.endsBuild (m : Moment) : Bool :=
  match m.input with
  | .buildEnds => true
  | _ => false

/-- A moment leaves a build to itself: it does not break it off, and if the session begins to work
anew, a stylesheet is located and read. -/
def LeavesBuild (s : Session) (m : Moment) : Prop :=
  match m.input with
  | .buildBreaks _ => False
  | .begin => ∃ found, (s.choose m.files).result = .ok found
  | _ => True

/-- Until a build comes to its end by itself, all of some moments leave it to itself. -/
def LeftToEnd (s : Session) (number : Nat) : List Moment → Prop
  | [] => True
  | m :: ms => s.LeavesBuild m ∧ (m.endsBuild = false → (s.react number m).session.LeftToEnd (number + 1) ms)

/-- The state of a build that was started, by the first result that came to it. -/
def stateBy : Option (Except IndexError Index) → Build.State
  | none => .building
  | some result => .ofResult result

/-! ## One moment -/

section React

variable {s : Session} (n : Nat) (m : Moment)

/-- A build that is over stays as it is. -/
theorem react_over (hs : s.build.state.isOver = true) : (s.react n m).session.build.state = s.build.state := by
  have hidle := (Build.ne_of_isOver hs).2
  obtain ⟨fs, input⟩ := m
  cases input with
  | greet g => exact congrArg _ (greet_build s g)
  | begin =>
    simp only [react, begin_build]
    cases (s.choose fs).result with
    | error e => dsimp only; rw [Build.fail_over _ hs]
    | ok found => dsimp only; rw [Build.spawn_started _ (Build.ne_of_isOver hs).1]
  | buildEnds => exact Build.conclude_state_idle _ hidle
  | buildBreaks text => exact Build.conclude_state_idle _ hidle
  | asked uri p =>
    rcases ask_build s fs n uri p with h | ⟨_, -, -, -, h⟩ <;> exact congrArg (·.state) h
  | _ => rfl

variable {sheet : Sheet} {css : String}

/-- A build that is going on ends with the result that a moment brings, or goes on with its job. -/
theorem react_building (hs : s.build.state = .building) (hj : s.build.job = some (sheet, css)) :
    (s.react n m).session.build.state = stateBy (s.ending? sheet css m) ∧
      (s.ending? sheet css m = none → (s.react n m).session.build.job = some (sheet, css)) := by
  have hstarted : s.build.state ≠ .unstarted := by simp [hs]
  obtain ⟨fs, input⟩ := m
  cases input with
  | greet g =>
    simp only [react, greet_build]
    exact ⟨hs, fun _ => hj⟩
  | begin =>
    simp only [react, begin_build, ending?]
    cases (s.choose fs).result with
    | error e =>
      -- the check that a build is going on does not ask whose build it is
      dsimp only
      rw [Build.fail_open _ (by rw [hs]; rfl)]
      exact ⟨rfl, fun h => absurd h (Option.some_ne_none _)⟩
    | ok found =>
      -- a second build is refused
      dsimp only
      rw [Build.spawn_started _ hstarted]
      exact ⟨hs, fun _ => hj⟩
  | buildEnds =>
    simp only [react, runBuild, follow, Build.Handle.run, Build.conclude_building _ hj hs]
    exact ⟨rfl, fun h => absurd h (Option.some_ne_none _)⟩
  | buildBreaks text =>
    simp only [react, interruptBuild, follow, Build.Handle.interrupt, Build.conclude_building _ hj hs]
    exact ⟨rfl, fun h => absurd h (Option.some_ne_none _)⟩
  | asked uri p =>
    simp only [react]
    rcases ask_build s fs n uri p with h | ⟨_, -, -, -, h⟩ <;> rw [h] <;> exact ⟨hs, fun _ => hj⟩
  | _ => exact ⟨hs, fun _ => hj⟩

end React

/-! ## All moments -/

theorem after_over {s : Session} (hs : s.build.state.isOver = true) (n : Nat) (ms : List Moment) :
    (s.after n ms).build.state = s.build.state := by
  induction ms generalizing s n with
  | nil => rfl
  | cons m ms ih =>
    have hm := react_over n m hs
    rw [after, ih (by rw [hm]; exact hs), hm]

section After

variable {s : Session} {sheet : Sheet} {css : String}

/-- The first result that comes to a build that is going on decides it. -/
theorem after_building (hs : s.build.state = .building) (hj : s.build.job = some (sheet, css)) (n : Nat)
    (ms : List Moment) : (s.after n ms).build.state = stateBy (s.outcome? n sheet css ms) := by
  induction ms generalizing s n with
  | nil => exact hs
  | cons m ms ih =>
    obtain ⟨hstate, hjob⟩ := react_building n m hs hj
    rw [after, outcome?]
    cases he : s.ending? sheet css m with
    | none =>
      rw [he] at hstate
      exact ih hstate (hjob he) (n + 1)
    | some result =>
      rw [he] at hstate
      have hover : (s.react n m).session.build.state.isOver = true := by
        rw [hstate]
        exact (Build.isOver_iff _).2 ⟨result, rfl⟩
      rw [after_over hover, hstate]
      rfl

/-- A build that is left to itself is brought no result but that of its text. -/
theorem outcome?_of_leftToEnd {n : Nat} {ms : List Moment} (h : s.LeftToEnd n ms) :
    s.outcome? n sheet css ms = if ms.any Moment.endsBuild then some (Index.ofText sheet css).1 else none := by
  induction ms generalizing s n with
  | nil => rfl
  | cons m ms ih =>
    obtain ⟨hm, hms⟩ := h
    have hending : s.ending? sheet css m = if m.endsBuild then some (Index.ofText sheet css).1 else none := by
      obtain ⟨fs, input⟩ := m
      cases input with
      | begin =>
        obtain ⟨found, hfound⟩ := hm
        simp only [ending?, hfound]
        rfl
      | buildBreaks text => exact hm.elim
      | _ => rfl
    rw [outcome?, hending, List.any_cons]
    cases he : m.endsBuild with
    | true => rfl
    | false => exact ih (hms he)

end After

/-- A build that was started is decided by the first result that comes to it, whatever moments
follow. If it is left to itself until it ends, that is the outcome of its text. -/
theorem first_build_decides {s : Session} {m : Moment} {sheet : Sheet} {css : String}
    (h : StartsBuild s m sheet css) (n : Nat) (later : List Moment) :
    (s.after n (m :: later)).build.state = stateBy ((s.react n m).session.outcome? (n + 1) sheet css later) ∧
      ((s.react n m).session.LeftToEnd (n + 1) later →
        (s.after n (m :: later)).build.state =
          if later.any Moment.endsBuild then .ofResult (Index.ofText sheet css).1 else .building) := by
  have hbegin : (s.react n m).session.build = (s.build.spawn sheet css).handle := by
    unfold react
    rw [h.input]
    dsimp only
    rw [begin_build, h.chosen]
  rw [Build.spawn_unstarted _ h.unstarted] at hbegin
  have hdecides : (s.after n (m :: later)).build.state =
      stateBy ((s.react n m).session.outcome? (n + 1) sheet css later) :=
    after_building (by rw [hbegin]) (by rw [hbegin]) (n + 1) later
  refine ⟨hdecides, fun hl => ?_⟩
  rw [hdecides, outcome?_of_leftToEnd hl]
  split <;> rfl

/-- A session without a workspace whose fallback is a file. -/
def sampleSession : Session := .new true (.file ⟨[0x2F, 0x61]⟩) none

/-- It begins to work while that file holds `.a{}`. -/
def sampleStart : Moment :=
  ⟨⟨[([[0x61]], .file ⟨#[0x2E, 0x61, 0x7B, 0x7D]⟩)], []⟩, .begin⟩

/-- It begins to work while there are no files. -/
def sampleFailure : Moment := ⟨.empty [], .begin⟩

/-- The build that was started ends. -/
def sampleEnd : Moment := ⟨.empty [], .buildEnds⟩

/-- The stylesheet that is taken up. -/
def sampleFallback : Sheet := ⟨⟨[0x2F, 0x61]⟩, .fallback .noWorkspace⟩

theorem startsBuild_sample : StartsBuild sampleSession sampleStart sampleFallback ".a{}" :=
  ⟨rfl, rfl, by decide +kernel⟩

/-- Neither a second beginning that finds its stylesheet changes the outcome, nor one that fails when
the build has ended. -/
theorem first_build_outlives :
    StartsBuild sampleSession sampleStart sampleFallback ".a{}" ∧
      (sampleSession.after 0 [sampleStart, sampleStart, sampleEnd, sampleFailure]).build.state =
        .ofResult (Index.ofText sampleFallback ".a{}").1 := by
  refine ⟨startsBuild_sample, ?_⟩
  have hleft : ((sampleSession.react 0 sampleStart).session).LeftToEnd 1 [sampleStart, sampleEnd, sampleFailure] :=
    ⟨⟨(sampleFallback, ".a{}"), by decide +kernel⟩, fun _ => ⟨trivial, nofun⟩⟩
  exact (first_build_decides startsBuild_sample 0 [sampleStart, sampleEnd, sampleFailure]).2 hleft

/-- A second beginning that fails before the build has ended does: the outcome of the text is then
discarded. -/
theorem first_build_discarded :
    StartsBuild sampleSession sampleStart sampleFallback ".a{}" ∧
      (sampleSession.after 0 [sampleStart, sampleFailure, sampleEnd]).build.state ≠
        .ofResult (Index.ofText sampleFallback ".a{}").1 := by
  refine ⟨startsBuild_sample, fun h => ?_⟩
  have hready := congrArg Build.State.isReady h
  revert hready
  decide +kernel

end ClassAtlas.Session
