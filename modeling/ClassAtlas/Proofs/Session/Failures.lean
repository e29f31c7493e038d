/-
How the user learns that there will be no index (`failure_reported`). The log is warned of every
failure, with the text of its error. The user is told of those that are met before anything is built;
a failure of the build itself, which comes to its end by itself or is broken off, is told to nobody
(`parse_failure_untold`).
-/
import ClassAtlas.Proofs.Index.Outcome
import ClassAtlas.Proofs.Session.Choice
import ClassAtlas.Proofs.Session.FirstBuild

namespace ClassAtlas

/-! ## Telling an error -/

/-- A notice tells an error: it is a warning that contains the text of the error. -/
def Notice.Tells (n : Notice) (e : IndexError) : Prop :=
  ∃ before after, n = .warning (before ++ e.message ++ after)

/-- An event logs an error: it is a warning that contains the text of the error. -/
def Event.Logs (event : Event) (e : IndexError) : Prop :=
  event.level = .warn ∧ ∃ before after, event.text = before ++ e.message ++ after

theorem logs_unavailable (e : IndexError) : (Event.unavailable e).Logs e :=
  ⟨rfl, "Tachyons definitions unavailable: ", "", (String.append_empty).symm⟩

theorem logs_buildFailed (e : IndexError) : (Event.buildFailed e).Logs e :=
  ⟨rfl, "Tachyons index build failed: ", "", (String.append_empty).symm⟩

theorem tells_notice (e : IndexError) : (Notice.warning e.notice).Tells e :=
  ⟨"Tachyons definitions unavailable: ", "", congrArg Notice.warning (String.append_empty).symm⟩

/-- Whether an error is met before anything is built. -/
def IndexError.isEarly : IndexError → Bool
  | .noCacheDirectory _ | .write _ _ | .read _ _ => true
  | .invalidPath _ | .parse _ _ | .interrupted _ => false

namespace Session

/-- What has to come in for a build to fail with an error. -/
def failing : IndexError → Input
  | .noCacheDirectory _ | .write _ _ | .read _ _ => .begin
  | .invalidPath _ | .parse _ _ => .buildEnds
  | .interrupted text => .buildBreaks text

theorem failing_of_failsWith {fallback : Fallback} {e : IndexError} (h : fallback.FailsWith e) :
    failing e = .begin ∧ e.isEarly = true := by
  cases h <;> exact ⟨rfl, rfl⟩

theorem failing_of_choose {s : Session} {fs : Files} {e : IndexError} (h : (s.choose fs).result = .error e) :
    failing e = .begin ∧ e.isEarly = true := by
  rcases (choose_error_iff s fs e).1 h with hl | ⟨sheet, cause, -, -, rfl⟩
  · exact failing_of_failsWith (locate_error hl)
  · exact ⟨rfl, rfl⟩

theorem failing_of_text {sheet : Sheet} {css : String} {e : IndexError} (h : (Index.ofText sheet css).1 = .error e) :
    failing e = .buildEnds ∧ e.isEarly = false := by
  cases (Index.indexes_iff sheet css _).2 h with
  | noUri => exact ⟨rfl, rfl⟩
  | noRule => exact ⟨rfl, rfl⟩

/-! ## One moment -/

/-- What is reported of a failure at the moment that brings it: the log is warned, and the user is told
if it is an early one, and nothing otherwise. -/
structure Reported (s : Session) (m : Moment) (r : Reaction) (e : IndexError) : Prop where
  cause : m.input = failing e
  logged : ∃ event ∈ r.events, event.Logs e
  told : e.isEarly = true → s.hasClient = true → ∃ notice ∈ r.notices, notice.Tells e
  silent : e.isEarly = false → r.notices = []

section Fails

variable {s : Session} {fs : Files} {e : IndexError}

/-- A build that fails when it is concluded had a job, which came to the error. -/
theorem conclude_failed {make : Sheet → String → Except IndexError Index × List Event}
    (hb : s.build.state.isOver = false) (ha : (s.build.conclude make).handle.state = .failed e) :
    (∃ sheet css, (make sheet css).1 = .error e) ∧ Event.buildFailed e ∈ (s.build.conclude make).events := by
  cases hj : s.build.job with
  | none =>
    rw [Build.conclude_none _ hj] at ha
    rw [ha] at hb; cases hb
  | some job =>
    obtain ⟨sheet, css⟩ := job
    by_cases hs : s.build.state = .building
    · rw [Build.conclude_building _ hj hs] at ha ⊢
      have hmake : (make sheet css).1 = .error e := by
        dsimp only at ha
        cases hr : (make sheet css).1 with
        | ok i => rw [hr] at ha; cases ha
        | error e' => rw [hr] at ha; cases ha; rfl
      refine ⟨⟨sheet, css, hmake⟩, List.mem_append_right _ ?_⟩
      rw [hmake]
      exact List.mem_singleton.2 rfl
    · rw [Build.conclude_state_idle _ hs] at ha
      rw [ha] at hb; cases hb

theorem begin_reported (hb : s.build.state.isOver = false) (ha : (s.begin fs).session.build.state = .failed e) :
    Reported s ⟨fs, .begin⟩ (s.begin fs) e := by
  cases hc : (s.choose fs).result with
  | ok found =>
    -- a build that is started or goes on has not failed
    obtain ⟨sheet, css⟩ := found
    rw [(begin_ok hc).1] at ha
    by_cases hs : s.build.state = .unstarted
    · rw [Build.spawn_unstarted _ hs] at ha; cases ha
    · rw [Build.spawn_started _ hs] at ha
      rw [ha] at hb; cases hb
  | error e' =>
    obtain ⟨hbuild, hevent, hnotices⟩ := begin_error hc
    obtain ⟨hcause, hearly⟩ := failing_of_choose hc
    rw [hbuild, Build.fail_open _ hb] at ha
    cases ha
    refine ⟨hcause.symm, ⟨_, hevent, logs_unavailable e⟩, fun _ hclient => ?_, fun hlate => ?_⟩
    · rw [hnotices, if_pos hclient]
      exact ⟨_, List.mem_append_right _ (List.mem_singleton.2 rfl), tells_notice e⟩
    · rw [hearly] at hlate; cases hlate

/-- A failure is reported at the moment at which the build becomes failed. -/
theorem react_reported {n : Nat} {m : Moment} (hb : s.build.state.isOver = false)
    (ha : (s.react n m).session.build.state = .failed e) : Reported s m (s.react n m) e := by
  have hconclude : ∀ {make : Sheet → String → Except IndexError Index × List Event} {files : Files},
      (s.build.conclude make).handle.state = .failed e →
      ∃ event ∈ (s.follow files [] [] (s.build.conclude make)).events, event.Logs e := by
    intro make files ha
    exact ⟨_, List.mem_append_left _ (conclude_failed hb ha).2, logs_buildFailed e⟩
  have hsame : (s.react n m).session.build.state ≠ s.build.state := by
    intro h
    rw [← h, ha] at hb; cases hb
  obtain ⟨fs, input⟩ := m
  cases input with
  | begin => exact begin_reported hb ha
  | buildEnds =>
    obtain ⟨⟨sheet, css, hmake⟩, -⟩ := conclude_failed hb ha
    obtain ⟨hcause, hlate⟩ := failing_of_text hmake
    exact ⟨hcause.symm, hconclude ha, fun hearly => by (rw [hlate] at hearly; cases hearly),
      fun _ => react_notices s n nofun⟩
  | buildBreaks text =>
    obtain ⟨⟨sheet, css, hmake⟩, -⟩ := conclude_failed hb ha
    cases hmake
    exact ⟨rfl, hconclude ha, nofun, fun _ => react_notices s n nofun⟩
  | greet g => exact absurd (congrArg _ (greet_build s g)) hsame
  | asked uri p =>
    rcases ask_build s fs n uri p with h | ⟨_, -, -, -, h⟩
    · exact absurd (congrArg _ h) hsame
    · exact absurd (congrArg _ h) hsame
  | _ => exact absurd rfl hsame

end Fails

/-! ## A whole history -/

/-- A build that has failed became so at one of the moments, and was not over before. -/
theorem became_failed {first : Session} (hf : first.build.state.isOver = false) {history : List Moment}
    {e : IndexError} (h : (past first history).build.state = .failed e) :
    ∃ before m later, history = before ++ m :: later ∧ (past first before).build.state.isOver = false ∧
      (past first (before ++ [m])).build.state = .failed e := by
  induction history using List.reverseRecOn with
  | nil => rw [past_nil] at h; rw [h] at hf; cases hf
  | append_singleton history m ih =>
    cases ho : (past first history).build.state.isOver with
    | false => exact ⟨history, m, [], rfl, ho, h⟩
    | true =>
      rw [past_concat, react_over _ _ ho] at h
      obtain ⟨before, m', later, rfl, hb, ha⟩ := ih h
      exact ⟨before, m', later ++ [m], by simp, hb, ha⟩

/-- Whatever error the build of a session has failed with, there was a moment at which it failed. The
log was warned of the error at that moment. The user was told then if the error is one that is met
before anything is built; of a failure of the build itself nothing was told. -/
theorem failure_reported (fallback : Fallback) (root : Option Path) (history : List Moment) (e : IndexError)
    (h : (past (.new true fallback root) history).build.state = .failed e) :
    ∃ before m later, history = before ++ m :: later ∧
      (past (.new true fallback root) before).build.state.isOver = false ∧
      (past (.new true fallback root) (before ++ [m])).build.state = .failed e ∧
      m.input = failing e ∧
      (∃ event ∈ ((past (.new true fallback root) before).react before.length m).events, event.Logs e) ∧
      (e.isEarly = true →
        ∃ notice ∈ ((past (.new true fallback root) before).react before.length m).notices, notice.Tells e) ∧
      (e.isEarly = false → ((past (.new true fallback root) before).react before.length m).notices = []) := by
  have hopen : (Session.new true fallback root).build.state.isOver = false := rfl
  obtain ⟨before, m, later, hh, hb, ha⟩ := became_failed hopen h
  have hclient : (past (.new true fallback root) before).hasClient = true := past_hasClient _ before
  have hreported : Reported (past (.new true fallback root) before) m _ e :=
    react_reported (n := before.length) hb (by rw [← past_concat]; exact ha)
  exact ⟨before, m, later, hh, hb, ha, hreported.cause, hreported.logged,
    fun hearly => hreported.told hearly hclient, hreported.silent⟩

/-- A session whose fallback is not there fails, and says so. -/
theorem missing_fallback_told :
    (past (.new true (.file ⟨[0x2F, 0x61]⟩) none) [sampleFailure]).build.state =
        .failed (.read ⟨[0x2F, 0x61]⟩ .notFound) ∧
      ∃ before m, (past (.new true (.file ⟨[0x2F, 0x61]⟩) none) (before ++ [m])).build.state =
          .failed (.read ⟨[0x2F, 0x61]⟩ .notFound) ∧
        ∃ notice ∈ ((past (.new true (.file ⟨[0x2F, 0x61]⟩) none) before).react before.length m).notices,
          notice.Tells (.read ⟨[0x2F, 0x61]⟩ .notFound) := by
  have hfailed : (past (.new true (.file ⟨[0x2F, 0x61]⟩) none) [sampleFailure]).build.state =
      .failed (.read ⟨[0x2F, 0x61]⟩ .notFound) := by
    have hchosen : ((Session.new true (.file ⟨[0x2F, 0x61]⟩) none).choose (.empty [])).result =
        .error (.read ⟨[0x2F, 0x61]⟩ .notFound) := by
      decide +kernel
    exact congrArg (·.state) (begin_error hchosen).1
  obtain ⟨before, m, -, -, -, ha, -, -, htold, -⟩ :=
    failure_reported (.file ⟨[0x2F, 0x61]⟩) none [sampleFailure] _ hfailed
  exact ⟨hfailed, before, m, ha, htold rfl⟩

/-- A session begins to work while its fallback holds `a;`, which is no rule. -/
def sampleNoRule : Moment :=
  ⟨⟨[([[0x61]], .file ⟨#[0x61, 0x3B]⟩)], []⟩, .begin⟩

theorem ofText_noRule : (Index.ofText sampleFallback "a;").1 = .error (.parse ⟨[0x2F, 0x61]⟩ 1) := by
  obtain ⟨uri, huri⟩ : ∃ uri, Uri.ofPath? sampleFallback.path = some uri :=
    Option.isSome_iff_exists.1 (by decide +kernel)
  have hrules : Stylesheet.rulesOf (Stylesheet.scan "a;") = [] := List.isEmpty_iff.1 (by decide +kernel)
  have hcount : (Stylesheet.rejectionsOf (Stylesheet.scan "a;")).length = 1 := by decide +kernel
  have hindexes := Index.Indexes.noRule huri hrules (by rintro h; rw [h] at hcount; cases hcount)
  rw [hcount] at hindexes
  exact (Index.indexes_iff _ _ _).1 hindexes

/-- When the build ends it fails, and in all that the user was told there is nothing of that. -/
theorem parse_failure_untold :
    (past (.new true (.file ⟨[0x2F, 0x61]⟩) none) [sampleNoRule, sampleEnd]).build.state =
        .failed (.parse ⟨[0x2F, 0x61]⟩ 1) ∧
      ∀ notice ∈ (Session.new true (.file ⟨[0x2F, 0x61]⟩) none).told 0 [sampleNoRule, sampleEnd],
        ¬ notice.Tells (.parse ⟨[0x2F, 0x61]⟩ 1) := by
  have hchosen : ((Session.new true (.file ⟨[0x2F, 0x61]⟩) none).choose sampleNoRule.files).result =
      .ok (sampleFallback, "a;") := by
    decide +kernel
  have hbuild := (begin_ok hchosen).1
  rw [Build.spawn_unstarted _ rfl] at hbuild
  have htold : (Session.new true (.file ⟨[0x2F, 0x61]⟩) none).told 0 [sampleNoRule, sampleEnd] =
      [.info sampleFallback.notice] := by
    decide +kernel
  constructor
  · have hend : (((Session.new true (.file ⟨[0x2F, 0x61]⟩) none).begin sampleNoRule.files).session.build.conclude
        Index.ofText).handle.state = .ofResult (Index.ofText sampleFallback "a;").1 := by
      rw [Build.conclude_building _ (congrArg (·.job) hbuild) (congrArg (·.state) hbuild)]
    rw [ofText_noRule] at hend
    exact hend
  · intro notice hn
    rw [htold, List.mem_singleton] at hn
    rintro ⟨before, after, h⟩
    rw [hn] at h
    cases h

end Session

end ClassAtlas
