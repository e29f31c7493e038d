/-
The build in a session. Whatever a history brings, the only stylesheet that is ever built is the one
that the session chose and read when it first began to work (`TakenUp`), and who waits for the build
asked for a definition while it was going on (`Waits`). Both are kept by every moment
(`sound_concat`), so they hold after every history (`sound_past`).
-/
import ClassAtlas.Proofs.Build.Handle
import ClassAtlas.Proofs.Session.History

namespace ClassAtlas.Session

/-! ## What a moment does to the build -/

theorem greet_build (s : Session) (g : Greeting) : (s.greet g).1.build = s.build := by
  unfold greet
  cases g.options with
  | none => rfl
  | some options =>
    dsimp only
    cases Settings.ofOptions options <;> rfl

theorem begin_build (s : Session) (fs : Files) :
    (s.begin fs).session.build =
      match (s.choose fs).result with
      | .error e => (s.build.fail e).handle
      | .ok (sheet, css) => (s.build.spawn sheet css).handle := by
  unfold begin
  dsimp only
  cases (s.choose fs).result <;> rfl

/-- A request waits if it is served, the settings make it wait and the build is going on; otherwise
it leaves the build alone. -/
theorem ask_build (s : Session) (fs : Files) (n : Nat) (uri : Uri) (p : Position) :
    (s.ask fs n uri p).session.build = s.build ∨
      ∃ document, s.servedDocument? uri = some document ∧ s.settings.waitForIndex = true ∧
        s.build.state = .building ∧
        (s.ask fs n uri p).session.build =
          { s.build with waiting := s.build.waiting ++ [⟨n, document.text, p⟩] } := by
  unfold ask
  cases hd : s.servedDocument? uri with
  | none => exact .inl rfl
  | some document =>
    dsimp only
    cases hw : s.settings.waitForIndex with
    | false => exact .inl rfl
    | true =>
      by_cases hb : s.build.state = .building
      · refine .inr ⟨document, rfl, rfl, hb, ?_⟩
        simp only [follow, Build.wait_building _ hb, if_true]
      · refine .inl ?_
        simp only [follow, Build.wait_idle _ hb, if_true]

/-! ## Where builds and waiting requests come from -/

/-- The stylesheet that a history takes up: chosen and read when the session first began to work. -/
def TakenUp (first : Session) (history : List Moment) (sheet : Sheet) (css : String) : Prop :=
  ∃ before m later, history = before ++ m :: later ∧ m.input = .begin ∧
    (∀ n ∈ before, n.input ≠ .begin) ∧ ((past first before).choose m.files).result = .ok (sheet, css)

/-- A request that a history has made wait: it was served, and came while the build was going on. -/
def Waits (first : Session) (history : List Moment) (q : Pending) : Prop :=
  ∃ before asking later uri document, history = before ++ asking :: later ∧ before.length = q.number ∧
    asking.input = .asked uri q.position ∧ (past first before).servedDocument? uri = some document ∧
    document.text = q.text ∧ (past first before).settings.waitForIndex = true ∧
    (past first before).build.state = .building

/-- A history begins the work for the first time at one moment only. -/
theorem first_begin_unique {before later before' later' : List Moment} {m m' : Moment} (hm : m.input = .begin)
    (hn : ∀ n ∈ before, n.input ≠ .begin) (hm' : m'.input = .begin) (hn' : ∀ n ∈ before', n.input ≠ .begin)
    (he : before ++ m :: later = before' ++ m' :: later') : before = before' ∧ m = m' := by
  -- neither of the two first beginnings can come before the other
  rcases List.append_eq_append_iff.1 he with ⟨between, rfl, hb⟩ | ⟨between, rfl, hb⟩
  · cases between with
    | nil => cases hb; exact ⟨(List.append_nil _).symm, rfl⟩
    | cons o rest => cases hb; exact absurd hm (hn' _ (by simp))
  · cases between with
    | nil => cases hb; exact ⟨List.append_nil _, rfl⟩
    | cons o rest => cases hb; exact absurd hm' (hn _ (by simp))

theorem TakenUp.concat {first : Session} {history : List Moment} {sheet : Sheet} {css : String}
    (h : TakenUp first history sheet css) (m : Moment) : TakenUp first (history ++ [m]) sheet css := by
  obtain ⟨before, o, later, rfl, hm, hn, hc⟩ := h
  exact ⟨before, o, later ++ [m], by simp, hm, hn, hc⟩

theorem Waits.concat {first : Session} {history : List Moment} {q : Pending} (h : Waits first history q)
    (m : Moment) : Waits first (history ++ [m]) q := by
  obtain ⟨before, asking, later, uri, document, rfl, h⟩ := h
  exact ⟨before, asking, later ++ [m], uri, document, by simp, h⟩

/-- What every history of a new session keeps to. -/
structure Sound (first : Session) (history : List Moment) : Prop where
  /-- The build is started when the session first begins to work. -/
  started : (past first history).build.state = .unstarted ↔ ∀ m ∈ history, m.input ≠ .begin
  /-- What is still to be built is the stylesheet that was taken up. -/
  job : ∀ sheet css, (past first history).build.job = some (sheet, css) → TakenUp first history sheet css
  /-- What was built is the stylesheet that was taken up. -/
  ready : ∀ i, (past first history).build.state = .ready i →
    ∃ sheet css, TakenUp first history sheet css ∧ (Index.ofText sheet css).1 = .ok i
  /-- Requests wait only while the build is going on, each as it was made. -/
  waiting : ∀ q ∈ (past first history).build.waiting,
    (past first history).build.state = .building ∧ Waits first history q

theorem sound_nil {first : Session} (hf : first.build = .new) : Sound first [] where
  started := by simp [hf, Build.Handle.new]
  job := by simp [hf, Build.Handle.new]
  ready := by simp [hf, Build.Handle.new]
  waiting := by simp [hf, Build.Handle.new]

section Concat

variable {first : Session} {history : List Moment} {m : Moment}

/-- A moment that changes neither the state nor who waits, spawns no build, and does not begin the
work unless that was done before. -/
theorem Sound.concat_kept (h : Sound first history)
    (hm : m.input ≠ .begin ∨ (past first history).build.state ≠ .unstarted)
    (hs : (past first (history ++ [m])).build.state = (past first history).build.state)
    (hj : ∀ j, (past first (history ++ [m])).build.job = some j → (past first history).build.job = some j)
    (hw : (past first (history ++ [m])).build.waiting = (past first history).build.waiting) :
    Sound first (history ++ [m]) where
  started := by
    rw [hs]
    constructor
    · intro hs n hn
      rcases List.mem_append.1 hn with hn | hn
      · exact h.started.1 hs n hn
      · rw [List.mem_singleton.1 hn]
        exact hm.resolve_right fun hu => hu hs
    · intro hn
      exact h.started.2 fun n hn' => hn n (List.mem_append_left _ hn')
  job := fun sheet css h' => (h.job sheet css (hj _ h')).concat m
  ready := by
    intro i hi
    rw [hs] at hi
    obtain ⟨sheet, css, ht, ho⟩ := h.ready i hi
    exact ⟨sheet, css, ht.concat m, ho⟩
  waiting := by
    intro q hq
    rw [hw] at hq
    rw [hs]
    obtain ⟨hb, hq⟩ := h.waiting q hq
    exact ⟨hb, hq.concat m⟩

theorem Sound.concat_same (h : Sound first history)
    (hm : m.input ≠ .begin ∨ (past first history).build.state ≠ .unstarted)
    (hb : (past first (history ++ [m])).build = (past first history).build) : Sound first (history ++ [m]) :=
  h.concat_kept hm (by rw [hb]) (by rw [hb]; exact fun j hj => hj) (by rw [hb])

/-- A moment that ends the build with a result and leaves nobody waiting. -/
theorem Sound.concat_over (h : Sound first history) (result : Except IndexError Index)
    (hs : (past first (history ++ [m])).build.state = .ofResult result)
    (hm : m.input = .begin ∨ (past first history).build.state ≠ .unstarted)
    (hj : ∀ j, (past first (history ++ [m])).build.job = some j → (past first history).build.job = some j)
    (hr : ∀ i, result = .ok i → ∃ sheet css, TakenUp first history sheet css ∧ (Index.ofText sheet css).1 = .ok i)
    (hw : (past first (history ++ [m])).build.waiting = []) : Sound first (history ++ [m]) where
  started := by
    rw [hs]
    refine ⟨fun h => absurd h (Build.ofResult_ne_unstarted result), fun hn => ?_⟩
    rcases hm with hm | hm
    · exact absurd hm (hn m (by simp))
    · exact absurd (h.started.2 fun n hn' => hn n (List.mem_append_left _ hn')) hm
  job := fun sheet css h' => (h.job sheet css (hj _ h')).concat m
  ready := by
    intro i hi
    rw [hs] at hi
    have hi' : result = .ok i := by
      cases result with
      | ok i' => exact congrArg _ (Build.State.ready.inj hi)
      | error e => cases hi
    obtain ⟨sheet, css, ht, ho⟩ := hr i hi'
    exact ⟨sheet, css, ht.concat m, ho⟩
  waiting := by simp [hw]

/-- A session that begins to work takes its stylesheet up, or fails, unless it has begun before. -/
theorem Sound.concat_begin (h : Sound first history) (hm : m.input = .begin) : Sound first (history ++ [m]) := by
  have hb : (past first (history ++ [m])).build = ((past first history).begin m.files).session.build := by
    rw [past_concat, react, hm]
  rw [begin_build] at hb
  cases hc : ((past first history).choose m.files).result with
  | error e =>
    rw [hc] at hb
    dsimp only at hb
    cases ho : (past first history).build.state.isOver with
    | true =>
      rw [Build.fail_over _ ho] at hb
      exact h.concat_same (.inr (Build.ne_of_isOver ho).1) hb
    | false =>
      rw [Build.fail_open _ ho] at hb
      exact h.concat_over (.error e) (by rw [hb]; rfl) (.inl hm) (by rw [hb]; exact fun j hj => hj)
        (by simp) (by rw [hb])
  | ok chosen =>
    obtain ⟨sheet, css⟩ := chosen
    rw [hc] at hb
    dsimp only at hb
    by_cases hs : (past first history).build.state = .unstarted
    · -- nobody can be waiting yet, and no earlier moment can have begun the work
      rw [Build.spawn_unstarted _ hs] at hb
      have hn := h.started.1 hs
      have hw : (past first history).build.waiting = [] := by
        refine List.eq_nil_iff_forall_not_mem.2 fun q hq => ?_
        have := (h.waiting q hq).1
        rw [hs] at this
        cases this
      refine ⟨?_, ?_, ?_, ?_⟩
      · rw [hb]
        exact ⟨by simp, fun hn => absurd hm (hn m (by simp))⟩
      · intro sheet' css' hj
        rw [hb] at hj
        cases hj
        exact ⟨history, m, [], rfl, hm, hn, hc⟩
      · intro i hi
        rw [hb] at hi
        cases hi
      · simp [hb, hw]
    · rw [Build.spawn_started _ hs] at hb
      exact h.concat_same (.inr hs) hb

/-- A build that was spawned comes to its end with an index of its stylesheet, or without one. -/
theorem Sound.concat_conclude (h : Sound first history)
    (make : Sheet → String → Except IndexError Index × List Event) (hm : m.input ≠ .begin)
    (hmake : ∀ sheet css i, (make sheet css).1 = .ok i → (Index.ofText sheet css).1 = .ok i)
    (hb : (past first (history ++ [m])).build = ((past first history).build.conclude make).handle) :
    Sound first (history ++ [m]) := by
  cases hj : (past first history).build.job with
  | none =>
    rw [Build.conclude_none _ hj] at hb
    exact h.concat_same (.inl hm) hb
  | some job =>
    obtain ⟨sheet, css⟩ := job
    by_cases hs : (past first history).build.state = .building
    · rw [Build.conclude_building _ hj hs] at hb
      refine h.concat_over (make sheet css).1 (by rw [hb]) (.inr (by simp [hs]))
        (by simp [hb]) (fun i hi => ⟨sheet, css, h.job sheet css hj, hmake _ _ i hi⟩) (by rw [hb])
    · -- a failure has ended the build before its job came to an end
      rw [Build.conclude_idle _ hj hs] at hb
      exact h.concat_kept (.inl hm) (by rw [hb]) (by simp [hb]) (by rw [hb])

/-- A request that waits was just made; the others wait on. -/
theorem Sound.concat_asked (h : Sound first history) {uri : Uri} {p : Position} (hm : m.input = .asked uri p) :
    Sound first (history ++ [m]) := by
  have hn : m.input ≠ .begin := by simp [hm]
  have hb : (past first (history ++ [m])).build =
      ((past first history).ask m.files history.length uri p).session.build := by
    rw [past_concat, react, hm]
  rcases ask_build (past first history) m.files history.length uri p with hk | ⟨document, hd, hset, hs, hk⟩
  · exact h.concat_same (.inl hn) (hb.trans hk)
  · rw [hk] at hb
    have hstate : (past first (history ++ [m])).build.state = .building := by rw [hb]; exact hs
    refine ⟨?_, ?_, ?_, ?_⟩
    · refine ⟨fun hu => ?_, fun hf => ?_⟩
      · rw [hstate] at hu; cases hu
      · have hu := h.started.2 fun n hn' => hf n (List.mem_append_left _ hn')
        rw [hs] at hu; cases hu
    · intro sheet css hj
      rw [hb] at hj
      exact (h.job sheet css hj).concat m
    · intro i hi
      rw [hstate] at hi
      cases hi
    · intro q hq
      rw [hb] at hq
      refine ⟨hstate, ?_⟩
      rcases List.mem_append.1 hq with hq | hq
      · exact (h.waiting q hq).2.concat m
      · rw [List.mem_singleton.1 hq]
        exact ⟨history, m, [], uri, document, rfl, rfl, hm, hd, rfl, hset, hs⟩

end Concat

/-- Every moment keeps to it. -/
theorem sound_concat {first : Session} {history : List Moment} (h : Sound first history) (m : Moment) :
    Sound first (history ++ [m]) := by
  cases hm : m.input with
  | begin => exact h.concat_begin hm
  | buildEnds =>
    refine h.concat_conclude Index.ofText (by simp [hm]) (fun _ _ _ hi => hi) ?_
    rw [past_concat, react, hm]
    rfl
  | buildBreaks text =>
    refine h.concat_conclude (fun _ _ => (.error (.interrupted text), [])) (by simp [hm])
      (fun _ _ _ hi => (by cases hi)) ?_
    rw [past_concat, react, hm]
    rfl
  | asked uri p => exact h.concat_asked hm
  | greet g =>
    refine h.concat_same (.inl (by simp [hm])) ?_
    rw [past_concat, react, hm]
    exact greet_build _ g
  | _ =>
    refine h.concat_same (.inl (by simp [hm])) ?_
    rw [past_concat, react, hm]
    rfl

/-- Every history of a new session keeps to it. -/
theorem sound_past {first : Session} (hf : first.build = .new) (history : List Moment) : Sound first history := by
  induction history using List.reverseRecOn with
  | nil => exact sound_nil hf
  | append_singleton history m ih => exact sound_concat ih m

end ClassAtlas.Session
