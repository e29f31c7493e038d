/-
Starting up in steps and in one go. A session locates and reads its stylesheet when it begins to work,
and indexes the text later, when the build that it has started ends. What this comes to is what
locating and then loading come to in one go (`start_up_refines_load`), and the user is told once: which
file is about to be indexed, or that no index will come.
-/
import ClassAtlas.Proofs.Index.Outcome
import ClassAtlas.Proofs.Session.Choice
import ClassAtlas.Proofs.Session.FirstBuild

namespace ClassAtlas

/-! ## In one go -/

/-- Locates the stylesheet and loads it. -/
def startUp (fs : Files) (root : Option Path) (fallback : Fallback) : Except IndexError Index :=
  let located := Sheet.locate fs root fallback
  located.result.bind fun sheet => (Index.load located.files sheet).1

/-- What starting up comes to: a stylesheet that cannot be located is refused, any other is loaded from
the files as locating has left them. -/
inductive StartsUp (located : Outcome (Except IndexError Sheet)) : Except IndexError Index → Prop
  | unlocated {e : IndexError} : located.result = .error e → StartsUp located (.error e)
  | located {sheet : Sheet} {result : Except IndexError Index} : located.result = .ok sheet →
      Index.Loads located.files sheet result → StartsUp located result

theorem startsUp_startUp (fs : Files) (root : Option Path) (fallback : Fallback) :
    StartsUp (Sheet.locate fs root fallback) (startUp fs root fallback) := by
  unfold startUp
  dsimp only
  cases hl : (Sheet.locate fs root fallback).result with
  | error e => exact .unlocated hl
  | ok sheet => exact .located hl ((Index.loads_iff _ _ _).2 rfl)

/-! ## What is told -/

/-- Whether a text begins with another. -/
def beginsWith (beginning text : String) : Bool :=
  beginning.toList.isPrefixOf text.toList

/-- Whether a notice is about the start: it tells that a file is about to be indexed, or that no index
will come. -/
def Notice.isAboutStart : Notice → Bool
  | .info text => beginsWith "tachyons-lsp initialized! Indexing " text
  | .warning text => beginsWith "Tachyons definitions unavailable: " text

/-- The notice about a start: the error if the stylesheet cannot be located or read, else its path. -/
inductive Announces (located : Outcome (Except IndexError Sheet)) : Notice → Prop
  | unlocated {e : IndexError} : located.result = .error e → Announces located (.warning e.notice)
  | unread {sheet : Sheet} {cause : Files.Error} : located.result = .ok sheet →
      located.files.readText sheet.path = .error cause →
      Announces located (.warning (IndexError.read sheet.path cause).notice)
  | read {sheet : Sheet} {css : String} : located.result = .ok sheet →
      located.files.readText sheet.path = .ok css → Announces located (.info sheet.notice)

theorem beginsWith_append (beginning rest : String) : beginsWith beginning (beginning ++ rest) = true := by
  unfold beginsWith
  rw [String.toList_append, List.isPrefixOf_iff_prefix]
  exact List.prefix_append _ _

theorem isAboutStart_unavailable (e : IndexError) : (Notice.warning e.notice).isAboutStart = true :=
  beginsWith_append _ e.message

theorem isAboutStart_indexing (sheet : Sheet) : (Notice.info sheet.notice).isAboutStart = true := by
  unfold Notice.isAboutStart Sheet.notice
  dsimp only
  rw [String.append_assoc, String.append_assoc, String.append_assoc]
  exact beginsWith_append _ _

/-- A text that has another first character does not begin with a text. -/
theorem beginsWith_of_head_ne {beginning front : String} {b c : Char} (hb : beginning.toList.head? = some b)
    (hc : front.toList.head? = some c) (hne : b ≠ c) (rest : String) : beginsWith beginning (front ++ rest) = false := by
  unfold beginsWith
  obtain ⟨bs, hbs⟩ := List.head?_eq_some_iff.1 hb
  obtain ⟨cs, hcs⟩ := List.head?_eq_some_iff.1 hc
  rw [String.toList_append, hbs, hcs, List.cons_append, List.isPrefixOf_cons_cons, beq_eq_false_iff_ne.2 hne,
    Bool.false_and]

/-- How a warning about settings begins. -/
theorem SettingsError.message_eq_append (e : SettingsError) :
    ∃ front rest, e.message = front ++ rest ∧ (front.toList.head? = some 'c' ∨ front.toList.head? = some 'i') := by
  cases e with
  | read path cause =>
    refine ⟨"could not read ", path.display ++ (": " ++ cause.message), ?_, .inl (by decide +kernel)⟩
    unfold message
    dsimp only
    rw [String.append_assoc, String.append_assoc]
  | toml path cause =>
    refine ⟨"invalid ", path.display ++ (": " ++ cause.message), ?_, .inr (by decide +kernel)⟩
    unfold message
    dsimp only
    rw [String.append_assoc, String.append_assoc]
  | options cause =>
    refine ⟨"invalid initializationOptions: ", cause.message, ?_, .inr (by decide +kernel)⟩
    unfold message
    dsimp only

/-- A warning about settings is not about the start. -/
theorem isAboutStart_settings (e : SettingsError) : (Notice.warning e.message).isAboutStart = false := by
  have hfirst : "Tachyons definitions unavailable: ".toList.head? = some 'T' := by decide +kernel
  obtain ⟨front, rest, hmessage, hc | hi⟩ := e.message_eq_append
  · rw [hmessage]
    exact beginsWith_of_head_ne hfirst hc (by decide) rest
  · rw [hmessage]
    exact beginsWith_of_head_ne hfirst hi (by decide) rest

namespace Session

theorem gatherSettings_notices (s : Session) (fs : Files) :
    ∀ n ∈ (s.gatherSettings fs).2.2, n.isAboutStart = false := by
  unfold gatherSettings
  dsimp only
  split
  · simp
  · next e _ => simpa using isAboutStart_settings e

theorem choose_announces (s : Session) (fs : Files) :
    ∃ notice, Announces (Sheet.locate fs s.root s.fallback) notice ∧ notice.isAboutStart = true ∧
      (s.begin fs).notices = if s.hasClient then (s.gatherSettings fs).2.2 ++ [notice] else [] := by
  cases hc : (s.choose fs).result with
  | error e =>
    refine ⟨.warning e.notice, ?_, isAboutStart_unavailable e, (begin_error hc).2.2⟩
    rcases (choose_error_iff s fs e).1 hc with hl | ⟨sheet, cause, hl, hr, rfl⟩
    · exact .unlocated hl
    · exact .unread hl hr
  | ok found =>
    obtain ⟨sheet, css⟩ := found
    obtain ⟨hl, hr⟩ := (choose_ok_iff s fs sheet css).1 hc
    exact ⟨.info sheet.notice, .read hl hr, isAboutStart_indexing sheet, (begin_ok hc).2.2⟩

/-! ## In steps -/

theorem startUp_eq (s : Session) (fs : Files) :
    startUp fs s.root s.fallback =
      (s.choose fs).result.bind fun found => (Index.ofText found.1 found.2).1 := by
  unfold startUp choose Index.load
  dsimp only
  cases (Sheet.locate fs s.root s.fallback).result with
  | error e => rfl
  | ok sheet =>
    simp only [Except.bind]
    cases Index.readSheet (Sheet.locate fs s.root s.fallback).files sheet <;> rfl

/-- A moment neither begins the work nor breaks a build off. -/
def Moment.Quiet (m : Moment) : Prop :=
  m.input ≠ .begin ∧ ∀ text, m.input ≠ .buildBreaks text

/-- Quiet moments leave a build to itself. -/
theorem leftToEnd_of_quiet {s : Session} {n : Nat} {ms : List Moment}
    (hm : ∀ m ∈ ms, m.Quiet) : s.LeftToEnd n ms := by
  induction ms generalizing s n with
  | nil => exact trivial
  | cons m ms ih =>
    obtain ⟨hbegin, hbreaks⟩ := hm m List.mem_cons_self
    refine ⟨?_, fun _ => ih fun m' h => hm m' (List.mem_cons_of_mem m h)⟩
    unfold LeavesBuild
    cases hi : m.input with
    | begin => exact absurd hi hbegin
    | buildBreaks text => exact absurd hi (hbreaks text)
    | _ => exact trivial

theorem quiet_till_end {between : List Moment}
    (hb : ∀ m ∈ between, m.Quiet) (now : Files) :
    ∀ m ∈ between ++ [⟨now, .buildEnds⟩], m.Quiet := by
  intro m hm
  rcases List.mem_append.1 hm with hm | hm
  · exact hb m hm
  · simp [List.mem_singleton.1 hm, Moment.Quiet]

/-- The state that a session comes to when it begins to work and its build ends: the result of starting
up in one go. -/
theorem state_after_start {s : Session} (hs : s.build.state = .unstarted) (n : Nat) (fs now : Files)
    {between : List Moment} (hb : ∀ m ∈ between, m.Quiet) :
    (s.after n (⟨fs, .begin⟩ :: between ++ [⟨now, .buildEnds⟩])).build.state =
      .ofResult (startUp fs s.root s.fallback) := by
  rw [startUp_eq, List.cons_append, after]
  cases hc : (s.choose fs).result with
  | error e =>
    -- the failure is there at once, and nothing changes it any more
    have hstate : (s.react n ⟨fs, .begin⟩).session.build.state = .failed e := by
      rw [react, (begin_error hc).1, Build.fail_open _ (by rw [hs]; rfl)]
    rw [after_over (by rw [hstate]; rfl), hstate]
    rfl
  | ok found =>
    obtain ⟨sheet, css⟩ := found
    have hbuild : (s.react n ⟨fs, .begin⟩).session.build =
        { s.build with state := .building, job := some (sheet, css) } := by
      rw [react, (begin_ok hc).1, Build.spawn_unstarted _ hs]
    have hends : (between ++ [(⟨now, .buildEnds⟩ : Moment)]).any Moment.endsBuild = true := by
      rw [List.any_append]
      exact Bool.or_true _
    rw [after_building (by rw [hbuild]) (by rw [hbuild]),
      outcome?_of_leftToEnd (leftToEnd_of_quiet (quiet_till_end hb now)), if_pos hends]
    rfl

/-- A session whose build has not been started begins to work, and in time the build ends. It has then
come to what locating and loading its stylesheet would have come to at once, when it began: the error
of the first of these that fails, or the index. Of all notices till then exactly one is about the
start, and it names the error if the stylesheet could not be located or read, and its path otherwise. -/
theorem start_up_refines_load {s : Session} (hs : s.build.state = .unstarted) (n : Nat) (fs now : Files)
    (between : List Moment) (hb : ∀ m ∈ between, m.Quiet) :
    (s.after n (⟨fs, .begin⟩ :: between ++ [⟨now, .buildEnds⟩])).build.state =
        .ofResult (startUp fs s.root s.fallback) ∧
      StartsUp (Sheet.locate fs s.root s.fallback) (startUp fs s.root s.fallback) ∧
      ∃ notice, Announces (Sheet.locate fs s.root s.fallback) notice ∧
        (s.told n (⟨fs, .begin⟩ :: between ++ [⟨now, .buildEnds⟩])).filter Notice.isAboutStart =
          if s.hasClient then [notice] else [] := by
  refine ⟨state_after_start hs n fs now hb, startsUp_startUp fs s.root s.fallback, ?_⟩
  obtain ⟨notice, hannounces, habout, hnotices⟩ := choose_announces s fs
  refine ⟨notice, hannounces, ?_⟩
  have hrest : (s.react n ⟨fs, .begin⟩).session.told (n + 1) (between ++ [⟨now, .buildEnds⟩]) = [] :=
    told_eq_nil _ _ fun m hm => (quiet_till_end hb now m hm).1
  have hsettings : (s.gatherSettings fs).2.2.filter Notice.isAboutStart = [] :=
    List.filter_eq_nil_iff.2 fun m hm => by simp [gatherSettings_notices s fs m hm]
  rw [List.cons_append, told, hrest, List.append_nil]
  show (s.begin fs).notices.filter Notice.isAboutStart = _
  rw [hnotices]
  split
  · rw [List.filter_append, hsettings, List.nil_append, List.filter_cons_of_pos habout, List.filter_nil]
  · rfl

/-- A session starts up on a readable stylesheet, is greeted meanwhile, and is ready in the end. -/
theorem start_up_ready :
    sampleSession.build.state = .unstarted ∧
      (startUp sampleStart.files none (.file ⟨[0x2F, 0x61]⟩)).isOk = true ∧
      (sampleSession.after 0 [sampleStart, ⟨.empty [], .greet ⟨none, [], none⟩⟩, sampleEnd]).build.state =
        .ofResult (startUp sampleStart.files none (.file ⟨[0x2F, 0x61]⟩)) ∧
      (sampleSession.told 0 [sampleStart, ⟨.empty [], .greet ⟨none, [], none⟩⟩, sampleEnd]).filter
        Notice.isAboutStart = [.info sampleFallback.notice] := by
  have hquiet : ∀ m ∈ [(⟨.empty [], .greet ⟨none, [], none⟩⟩ : Moment)], m.Quiet := by
    simp [Moment.Quiet]
  have hlocated : (Sheet.locate sampleStart.files none (.file ⟨[0x2F, 0x61]⟩)).result = .ok sampleFallback := rfl
  have hread : sampleStart.files.readText sampleFallback.path = .ok ".a{}" := by decide +kernel
  obtain ⟨hstate, -, notice, hannounces, htold⟩ :=
    start_up_refines_load (s := sampleSession) rfl 0 sampleStart.files (.empty []) _ hquiet
  refine ⟨rfl, by decide +kernel, hstate, htold.trans ?_⟩
  -- the file is there, so its path is what is told
  cases hannounces with
  | unlocated h => cases hlocated.symm.trans h
  | unread h hr =>
    cases hlocated.symm.trans h
    cases hread.symm.trans hr
  | read h _ =>
    cases hlocated.symm.trans h
    rfl

/-- For a user without a home there is no index, with any files, and the user is told why. -/
example (cause : String) (fs now : Files) :
    ((Session.new true (.builtIn ⟨.error cause, none⟩) none).after 0 [⟨fs, .begin⟩, ⟨now, .buildEnds⟩]).build.state =
        .failed (.noCacheDirectory cause) ∧
      (Session.new true (.builtIn ⟨.error cause, none⟩) none).told 0 [⟨fs, .begin⟩, ⟨now, .buildEnds⟩] =
        [.warning ("Tachyons definitions unavailable: " ++
          ("could not determine the user cache directory: " ++ cause))] :=
  ⟨rfl, rfl⟩

end Session

end ClassAtlas
