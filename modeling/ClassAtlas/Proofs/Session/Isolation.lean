/-
Requests that wait are isolated. A request for a definition that comes in while the build is going
on is answered, once, when the build ends: from the text and the settings of the moment at which it
came in, and from the index that there is at the end (`waiting_request_isolated`). Nothing that
happens in between has a part in its answer, and it has none in whatever else happens.

Two runs are compared, one with the request among those that wait and one without it (`Beside`).
That a step is the same for both follows from its being the same as if nobody waited at all
(`step_framed`).
-/
import ClassAtlas.Proofs.Build.Alongside
import ClassAtlas.Proofs.Session.Answers

namespace ClassAtlas.Session

/-! ## Runs -/

/-- One step of a session: something comes in, or somebody outside holds the build or brings it a
result. -/
inductive Step
  | moment (m : Moment)
  | held (files : Files)
  | brought (files : Files) (result : Except IndexError Index)

/-- What a step comes to; a request that comes in gets the given number. -/
def step (s : Session) (number : Nat) : Step → Reaction
  | .moment m => s.react number m
  | .held files => ⟨s.hold.1, files, [], [], []⟩
  | .brought files result => s.publish files result

/-- What some steps come to, one after the other; the first of them has the given number. -/
def run (s : Session) (number : Nat) : List Step → List Reaction
  | [] => []
  | x :: xs => s.step number x :: (s.step number x).session.run (number + 1) xs

/-- The session with some waiting requests in place of its own. -/
def withWaiting (s : Session) (w : List Pending) : Session :=
  { s with build := s.build.withWaiting w }

/-- Two runs side by side, the first of which has one more request waiting. As long as the build is
going on both react alike, only that the request is among those that wait. The reaction that ends
the build has its answer, once, among the other answers, and from then on there is no difference. -/
inductive Beside (q : Pending) : List Reaction → List Reaction → Prop
  | nil : Beside q [] []
  | waits {r : Reaction} {rs rs' : List Reaction} (earlier later : List Pending) :
      r.session.build.state = .building → r.session.build.waiting = earlier ++ later → Beside q rs rs' →
      Beside q ({ r with session := r.session.withWaiting (earlier ++ q :: later) } :: rs) (r :: rs')
  | answered (r : Reaction) (events events' : List Event) (answers answers' : List Answer) (rs : List Reaction) :
      r.session.build.state.isOver = true →
      Beside q
        ({ r with
            events := events ++ (answerAll r.session.build.state.index? [q]).2 ++ events'
            answers := answers ++ q.answer r.session.build.state.index? :: answers' } :: rs)
        ({ r with events := events ++ events', answers := answers ++ answers' } :: rs)

/-- What it means that a request for a document with a text is isolated from the steps that follow. -/
structure Isolated (s : Session) (fs : Files) (n : Nat) (uri : Uri) (p : Position) (text : String)
    (xs : List Step) : Prop where
  /-- It is not answered when it comes in: it waits behind the others, and nothing else happens. -/
  begun : s.ask fs n uri p = ⟨s.withWaiting (s.build.waiting ++ [⟨n, text, p⟩]), fs, [], [], []⟩
  /-- What follows is what would have followed without it, but for its one answer in the reaction that
  ends the build. -/
  beside : Beside ⟨n, text, p⟩ ((s.ask fs n uri p).session.run (n + 1) xs) (s.run (n + 1) xs)
  /-- None of the other answers is given to its number. -/
  own : (∀ q ∈ s.build.waiting, q.number ≠ n) → ∀ r ∈ s.run (n + 1) xs, ∀ a ∈ r.answers, a.number ≠ n
  /-- Its answer is the one that the session, as it was when the request came in, would have given at
  once, had its build been by then what it is in the end. -/
  answer : ∀ build : Build.Handle Pending, build.state.isOver = true →
    ({ s with build }.ask fs n uri p).answers = [(Pending.mk n text p).answer build.state.index?]

/-! ## Answers to many -/

@[simp] theorem answerAll_nil (index : Option Index) : answerAll index [] = ([], []) := rfl

theorem answerAll_append (index : Option Index) (a b : List Pending) :
    answerAll index (a ++ b) =
      ((answerAll index a).1 ++ (answerAll index b).1, (answerAll index a).2 ++ (answerAll index b).2) := by
  unfold answerAll
  simp only [List.map_append, List.flatMap_append]

theorem answerAll_singleton (index : Option Index) (q : Pending) : (answerAll index [q]).1 = [q.answer index] := by
  unfold answerAll Pending.answer
  cases index <;> rfl

/-! ## A step does not depend on who waits -/

/-- A reaction of a session in which nobody waited, if some requests wait all the same. -/
def Reaction.alongside (r : Reaction) (w : List Pending) : Reaction :=
  if r.session.build.state.isBuilding then
    { r with session := r.session.withWaiting (w ++ r.session.build.waiting) }
  else
    { r with
      events := r.events ++ (answerAll r.session.build.state.index? w).2
      answers := r.answers ++ (answerAll r.session.build.state.index? w).1 }

theorem Reaction.alongside_building {r : Reaction} (h : r.session.build.state = .building) (w : List Pending) :
    r.alongside w = { r with session := r.session.withWaiting (w ++ r.session.build.waiting) } := by
  unfold Reaction.alongside; rw [h]; rfl

theorem Reaction.alongside_over {r : Reaction} (h : r.session.build.state.isOver = true) (w : List Pending) :
    r.alongside w =
      { r with
        events := r.events ++ (answerAll r.session.build.state.index? w).2
        answers := r.answers ++ (answerAll r.session.build.state.index? w).1 } := by
  unfold Reaction.alongside
  rw [(Build.isBuilding_eq_false_iff _).2 (Build.ne_of_isOver h).2]
  rfl

/-- What a session does during a build does not depend on who waits. -/
structure Framed (s : Session) (f : Session → Reaction) : Prop where
  /-- The build goes on or has ended. -/
  phase : (f (s.withWaiting [])).session.build.state = .building ∨
    (f (s.withWaiting [])).session.build.state.isOver = true
  /-- If requests wait, everything but their answers is as if nobody did. -/
  alongside : ∀ w, f (s.withWaiting w) = (f (s.withWaiting [])).alongside w

/-- Whoever waits is told what the build comes to, and nothing else depends on it. -/
theorem framed_of_follow {α : Type} {s : Session} {f : Session → Reaction} (t : Session)
    {op : Build.Handle Pending → Build.Change Pending α} (hop : Build.Framed t.build op) (fs : Files)
    (before : List Event) (notices : List Notice)
    (hf : ∀ w, f (s.withWaiting w) = (t.withWaiting w).follow fs before notices (op (t.build.withWaiting w))) :
    Framed s f where
  phase := by rw [hf]; exact hop.phase
  alongside := by
    intro w
    rw [hf, hf, hop.alongside w]
    rcases hop.phase with hs | hs
    · rw [Build.Change.alongside_building hs, Reaction.alongside_building (by exact hs)]
      rfl
    · rw [Build.Change.alongside_over hs, Reaction.alongside_over (by exact hs)]
      simp only [follow, hop.nobody, answerAll_nil, List.append_nil, List.nil_append]
      rfl

/-- What leaves the build alone does not depend on who waits for it. -/
theorem framed_of_kept {s : Session} {f : Session → Reaction} (t : Session) (hs : t.build.state = .building)
    (fs : Files) (events : List Event) (notices : List Notice) (answers : List Answer)
    (hf : ∀ w, f (s.withWaiting w) = ⟨t.withWaiting w, fs, events, notices, answers⟩) : Framed s f where
  phase := .inl (by rw [hf]; exact hs)
  alongside := by
    intro w
    rw [hf, hf, Reaction.alongside_building (by exact hs)]
    simp [withWaiting, Build.Handle.withWaiting]

section Steps

variable {s : Session} (hs : s.build.state = .building)
include hs

theorem greet_framed (fs : Files) (g : Greeting) : Framed s fun t => ⟨(t.greet g).1, fs, (t.greet g).2, [], []⟩ := by
  refine framed_of_kept (s.greet g).1 (by rw [greet_build]; exact hs) fs (s.greet g).2 [] [] fun w => ?_
  unfold greet withWaiting
  cases g.options with
  | none => rfl
  | some options =>
    dsimp only
    cases Settings.ofOptions options <;> rfl

/-- Beginning to work anew: what cannot be read ends the build, what can be read is left alone. -/
theorem begin_framed (fs : Files) : Framed s (·.begin fs) := by
  let t : Session := { s with settings := (s.gatherSettings fs).1 }
  -- the stylesheet is chosen alike, whoever waits
  have hchoose : ∀ w, (s.withWaiting w).choose fs = s.choose fs := fun _ => rfl
  cases hc : (s.choose fs).result with
  | error e =>
    refine framed_of_follow t (Build.fail_framed hs e) (s.choose fs).files
      ((s.gatherSettings fs).2.1 ++ (s.choose fs).events ++ [.unavailable e])
      ((s.gatherSettings fs).2.2 ++ [.warning e.notice]) fun w => ?_
    unfold begin
    dsimp only
    rw [hchoose, hc]
    rfl
  | ok found =>
    refine framed_of_follow t (Build.spawn_framed hs found.1 found.2) (s.choose fs).files
      ((s.gatherSettings fs).2.1 ++ (s.choose fs).events ++ [.indexing found.1])
      ((s.gatherSettings fs).2.2 ++ [.info found.1.notice]) fun w => ?_
    unfold begin
    dsimp only
    rw [hchoose, hc]
    rfl

/-- A request that has to wait waits behind the others; one that has not leaves them alone. -/
theorem ask_framed (fs : Files) (n : Nat) (uri : Uri) (p : Position) : Framed s (·.ask fs n uri p) := by
  have hserved : ∀ w, (s.withWaiting w).servedDocument? uri = s.servedDocument? uri := fun _ => rfl
  have hwaits : ∀ w, (s.withWaiting w).settings.waitForIndex = s.settings.waitForIndex := fun _ => rfl
  cases hd : s.servedDocument? uri with
  | none =>
    refine framed_of_kept s hs fs [] [] [⟨n, none⟩] fun w => ?_
    unfold ask
    rw [hserved, hd]
  | some document =>
    cases hw : s.settings.waitForIndex with
    | true =>
      refine framed_of_follow s (Build.wait_framed hs ⟨n, document.text, p⟩) fs [] [] fun w => ?_
      unfold ask
      rw [hserved, hd]
      dsimp only
      rw [if_pos (by rw [hwaits, hw])]
      rfl
    | false =>
      refine framed_of_kept s hs fs (answerAll s.build.state.index? [⟨n, document.text, p⟩]).2 []
        (answerAll s.build.state.index? [⟨n, document.text, p⟩]).1 fun w => ?_
      unfold ask
      rw [hserved, hd]
      dsimp only
      rw [if_neg (by rw [hwaits, hw]; exact Bool.false_ne_true)]
      rfl

/-- Whatever comes in does not depend on who waits. -/
theorem react_framed (n : Nat) (m : Moment) : Framed s (·.react n m) := by
  obtain ⟨fs, input⟩ := m
  cases input with
  | greet g => exact greet_framed hs fs g
  | begin => exact begin_framed hs fs
  | buildEnds => exact framed_of_follow s (Build.conclude_framed hs _) fs [] [] fun _ => rfl
  | buildBreaks text => exact framed_of_follow s (Build.conclude_framed hs _) fs [] [] fun _ => rfl
  | opened uri document =>
    exact framed_of_kept (s.openDocument uri document).1 hs fs [.opened uri.text] [] [] fun _ => rfl
  | changed uri texts => exact framed_of_kept (s.changeDocument uri texts) hs fs [] [] [] fun _ => rfl
  | closed uri => exact framed_of_kept (s.closeDocument uri).1 hs fs [.closed uri.text] [] [] fun _ => rfl
  | asked uri p => exact ask_framed hs fs n uri p

/-- No step depends on who waits. -/
theorem step_framed (n : Nat) (x : Step) : Framed s (·.step n x) := by
  cases x with
  | moment m => exact react_framed hs n m
  | held fs =>
    refine framed_of_kept s hs fs [] [] [] fun w => ?_
    simp only [step, hold, Build.start_started (s.withWaiting w).build (by show s.build.state ≠ _; rw [hs]; nofun)]
  | brought fs result => exact framed_of_follow s (Build.publish_framed hs result) fs [] [] fun _ => rfl

end Steps

/-! ## Answers have the numbers of their requests -/

/-- A reaction is of no concern to the request with a number: it does not answer it, and leaves no
request waiting that has the number. -/
def Reaction.Spares (k : Nat) (r : Reaction) : Prop :=
  (∀ a ∈ r.answers, a.number ≠ k) ∧ ∀ q ∈ r.session.build.waiting, q.number ≠ k

section Numbers

variable {s : Session} {k n : Nat}

theorem silent_spares {t : Session} (ht : ∀ q ∈ t.build.waiting, q.number ≠ k) (fs : Files) (events : List Event)
    (notices : List Notice) : Reaction.Spares k ⟨t, fs, events, notices, []⟩ :=
  ⟨List.forall_mem_nil _, ht⟩

theorem follow_spares {α : Type} {c : Build.Change Pending α} {calls : List Pending} (hc : c.Among calls)
    (hk : ∀ q ∈ calls, q.number ≠ k) (fs : Files) (before : List Event) (notices : List Notice) :
    (s.follow fs before notices c).Spares k := by
  refine ⟨fun a ha => ?_, fun q hq => hk q (hc.2 q hq)⟩
  obtain ⟨q, hq, rfl⟩ := mem_follow_answers.1 ha
  exact hk q (hc.1 q hq)

theorem ask_spares (hs : ∀ q ∈ s.build.waiting, q.number ≠ k) (hn : n ≠ k) (fs : Files) (uri : Uri) (p : Position) :
    (s.ask fs n uri p).Spares k := by
  unfold ask
  split
  · exact ⟨fun a ha => by rw [List.mem_singleton.1 ha]; exact hn, hs⟩
  · next document _ =>
    dsimp only
    split
    · refine follow_spares (Build.wait_among _ _) (fun q hq => ?_) fs _ _
      rcases List.mem_append.1 hq with hq | hq
      · exact hs q hq
      · rw [List.mem_singleton.1 hq]; exact hn
    · refine ⟨fun a ha => ?_, hs⟩
      obtain ⟨q, hq, rfl⟩ := mem_answerAll.1 ha
      rw [List.mem_singleton.1 hq]
      exact hn

/-- A step answers requests that waited, or the one that comes in. -/
theorem step_spares (hs : ∀ q ∈ s.build.waiting, q.number ≠ k) (hn : n ≠ k) (x : Step) : (s.step n x).Spares k := by
  cases x with
  | held fs => exact silent_spares (fun q hq => hs q ((Build.start_among s.build).2 q hq)) fs [] []
  | brought fs result => exact follow_spares (Build.publish_among s.build result) hs fs [] []
  | moment m =>
    obtain ⟨fs, input⟩ := m
    cases input with
    | greet g => exact silent_spares (by rw [greet_build]; exact hs) fs (s.greet g).2 []
    | begin =>
      unfold step react begin
      dsimp only
      split
      · exact follow_spares (Build.fail_among _ _) hs _ _ _
      · exact follow_spares (Build.spawn_among _ _ _) hs _ _ _
    | buildEnds => exact follow_spares (Build.conclude_among s.build Index.ofText) hs fs [] []
    | buildBreaks text =>
      exact follow_spares (Build.conclude_among s.build fun _ _ => (.error (.interrupted text), [])) hs fs [] []
    | opened uri document => exact silent_spares hs fs [.opened uri.text] []
    | changed uri texts => exact silent_spares hs fs [] []
    | closed uri => exact silent_spares hs fs [.closed uri.text] []
    | asked uri p => exact ask_spares hs hn fs uri p

/-- Steps with greater numbers do not answer to a number that nobody waits with. -/
theorem run_spares (hs : ∀ q ∈ s.build.waiting, q.number ≠ k) (hn : k < n) (xs : List Step) :
    ∀ r ∈ s.run n xs, r.Spares k := by
  induction xs generalizing s n with
  | nil => simp [run]
  | cons x xs ih =>
    have hx := step_spares hs hn.ne' x
    intro r hr
    rcases List.mem_cons.1 hr with rfl | hr
    · exact hx
    · exact ih hx.2 (by omega) r hr

end Numbers

/-! ## Runs side by side -/

/-- One of those that wait makes no difference to a run, except that it is answered. -/
theorem run_beside {s : Session} (hs : s.build.state = .building) (q : Pending) (earlier later : List Pending) (n : Nat)
    (xs : List Step) :
    Beside q ((s.withWaiting (earlier ++ q :: later)).run n xs) ((s.withWaiting (earlier ++ later)).run n xs) := by
  induction xs generalizing s later n with
  | nil => exact .nil
  | cons x xs ih =>
    have hx := step_framed hs n x
    -- what the step would come to if nobody waited
    let r := (s.withWaiting []).step n x
    have hrun : ∀ w, (s.withWaiting w).run n (x :: xs) = r.alongside w :: (r.alongside w).session.run (n + 1) xs := by
      intro w
      rw [run, hx.alongside w]
    rw [hrun, hrun]
    rcases hx.phase with hr | hr
    · -- the request waits on, in front of whoever begins to wait in this step
      have hrest := ih hr (later ++ r.session.build.waiting) (n + 1)
      rw [Reaction.alongside_building hr, Reaction.alongside_building hr, List.append_assoc, List.append_assoc]
      exact .waits (r := { r with session := r.session.withWaiting (earlier ++ (later ++ r.session.build.waiting)) })
        earlier (later ++ r.session.build.waiting) hr rfl hrest
    · -- the build has ended, and all who waited are answered in their turn
      let index := r.session.build.state.index?
      have hevents : r.events ++ (answerAll index (earlier ++ q :: later)).2 =
          (r.events ++ (answerAll index earlier).2) ++ (answerAll index [q]).2 ++ (answerAll index later).2 := by
        rw [List.append_cons, answerAll_append, answerAll_append]
        simp only [List.append_assoc]
      have hanswers : r.answers ++ (answerAll index (earlier ++ q :: later)).1 =
          (r.answers ++ (answerAll index earlier).1) ++ q.answer index :: (answerAll index later).1 := by
        rw [List.append_cons, answerAll_append, answerAll_append, answerAll_singleton]
        simp only [List.append_assoc, List.singleton_append]
      have hevents' : r.events ++ (answerAll index (earlier ++ later)).2 =
          (r.events ++ (answerAll index earlier).2) ++ (answerAll index later).2 := by
        rw [answerAll_append, List.append_assoc]
      have hanswers' : r.answers ++ (answerAll index (earlier ++ later)).1 =
          (r.answers ++ (answerAll index earlier).1) ++ (answerAll index later).1 := by
        rw [answerAll_append, List.append_assoc]
      rw [Reaction.alongside_over hr, Reaction.alongside_over hr, hevents, hanswers, hevents', hanswers']
      exact .answered r _ _ _ _ _ hr

/-- A request that comes in for a served document while the build is going on, when the settings make
requests wait, is isolated from all that follows. -/
theorem waiting_request_isolated {s : Session} {uri : Uri} {document : Document} (hs : s.build.state = .building)
    (hw : s.settings.waitForIndex = true) (hd : s.servedDocument? uri = some document) (fs : Files) (n : Nat)
    (p : Position) (xs : List Step) : Isolated s fs n uri p document.text xs := by
  have hask : s.ask fs n uri p = s.follow fs [] [] (s.build.wait ⟨n, document.text, p⟩) := by
    unfold ask
    rw [hd]
    exact if_pos hw
  have hbegun : s.ask fs n uri p = ⟨s.withWaiting (s.build.waiting ++ [⟨n, document.text, p⟩]), fs, [], [], []⟩ := by
    rw [hask, Build.wait_building _ hs]
    unfold follow
    simp only [answerAll_nil, List.append_nil, ite_self]
    rfl
  refine ⟨hbegun, ?_, ?_, ?_⟩
  · rw [hbegun]
    have h := run_beside hs ⟨n, document.text, p⟩ s.build.waiting [] (n + 1) xs
    rw [List.append_nil] at h
    exact h
  · exact fun hn r hr => (run_spares hn (Nat.lt_succ_self n) xs r hr).1
  · intro build hb
    have hserved : { s with build }.servedDocument? uri = some document := hd
    unfold ask
    rw [hserved]
    dsimp only
    rw [if_pos hw, Build.wait_idle _ (Build.ne_of_isOver hb).2]
    exact answerAll_singleton _ _

/-- A session with an open page, whose build is held by somebody outside. -/
def sampleHeld : Session :=
  { Session.new true (.file ⟨[0x2F, 0x61]⟩) none with
    documents := Documents.empty.insert samplePage.text ⟨"html", "a"⟩
    build := ⟨.building, none, []⟩ }

/-- The page changes, is asked about again and is closed; then the index of `.a{}` is brought. -/
def sampleSteps : List Step :=
  [.moment ⟨.empty [], .changed samplePage ["b"]⟩, .moment ⟨.empty [], .asked samplePage ⟨0, 1⟩⟩,
    .moment ⟨.empty [], .closed samplePage⟩, .brought (.empty []) (Index.ofText ⟨⟨[0x2F, 0x61]⟩, .project⟩ ".a{}").1]

/-- The first of two requests is answered from the page as it was before it changed. -/
theorem isolated_from_changes :
    sampleHeld.build.state = .building ∧ sampleHeld.settings.waitForIndex = true ∧
      sampleHeld.servedDocument? samplePage = some ⟨"html", "a"⟩ ∧
      Isolated sampleHeld (.empty []) 0 samplePage ⟨0, 1⟩ "a" sampleSteps ∧
      ((sampleHeld.ask (.empty []) 0 samplePage ⟨0, 1⟩).session.run 1 sampleSteps).map (·.answers) =
        [[], [], [], [⟨0, some sampleDeclaration⟩, ⟨2, none⟩]] := by
  have hd : sampleHeld.servedDocument? samplePage = some ⟨"html", "a"⟩ := by decide +kernel
  have hi : Isolated sampleHeld (.empty []) 0 samplePage ⟨0, 1⟩ "a" sampleSteps :=
    waiting_request_isolated rfl rfl hd (.empty []) 0 ⟨0, 1⟩ sampleSteps
  exact ⟨rfl, rfl, hd, hi, by decide +kernel⟩

end ClassAtlas.Session
