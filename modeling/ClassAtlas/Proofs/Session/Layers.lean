/-
The settings in force when a session begins to work, told from its history (`settings_in_force`). Each
of the two is what the editor's options set, else what the file in the workspace sets, else the
standard (`InForce`). The options that count are those of the last greeting that brought options which
were accepted, as a whole: what earlier ones had set is gone, and what was not accepted has left no
trace. A null is no options, as greetings are read (`greetingOf_options`).
-/
import ClassAtlas.Proofs.Session.Kept
import ClassAtlas.Protocol.Params

namespace ClassAtlas

/-! ## Greetings as they are read -/

theorem present?_ne_null (v : Json) (name : String) : v.present? name ≠ some .null := by
  unfold Json.present?
  split
  · nofun
  · assumption

theorem greetingOf_options {params : Json} {g : Session.Greeting} (h : Protocol.greetingOf params = .ok g) :
    g.options ≠ some .null := by
  unfold Protocol.greetingOf at h
  cases hv : Protocol.greetingShape.read params with
  | error e => rw [hv] at h; cases h
  | ok v =>
    rw [hv] at h
    simp only [bind, Except.bind] at h
    split at h
    · cases h
    · split at h
      · cases h
      · cases h
        exact present?_ne_null v _

/-! ## Layers -/

/-- The value of a setting in force: the one that the options set, else the one that the file sets, else
the standard. -/
inductive InForce {α : Type} (field : Overrides → Option α) (standard : α) (options file : Overrides → Prop) :
    α → Prop
  | ofOptions {o : Overrides} {value : α} : options o → field o = some value →
      InForce field standard options file value
  | ofFile {o : Overrides} {value : α} : (∀ o', options o' → field o' = none) → file o → field o = some value →
      InForce field standard options file value
  | standard : (∀ o, options o → field o = none) → (∀ o, file o → field o = none) →
      InForce field standard options file standard

theorem inForce_iff {α : Type} {field : Overrides → Option α} {standard : α} {options file : Option Overrides}
    {value : α} :
    InForce field standard (options = some ·) (file = some ·) value ↔
      ((options.bind field).or (file.bind field)).getD standard = value := by
  constructor
  · rintro (⟨ho, hv⟩ | ⟨hn, hf, hv⟩ | ⟨hn, hf⟩)
    · rw [ho, Option.bind_some, hv]; rfl
    · have : options.bind field = none := Option.bind_eq_none_iff.2 hn
      rw [this, hf, Option.bind_some, hv]; rfl
    · rw [Option.bind_eq_none_iff.2 hn, Option.bind_eq_none_iff.2 hf]; rfl
  · rintro rfl
    cases ho : options.bind field with
    | some value =>
      obtain ⟨o, h, hv⟩ := Option.bind_eq_some_iff.1 ho
      exact .ofOptions h hv
    | none =>
      have hn := Option.bind_eq_none_iff.1 ho
      cases hf : file.bind field with
      | some value =>
        obtain ⟨o, h, hv⟩ := Option.bind_eq_some_iff.1 hf
        exact .ofFile hn h hv
      | none => exact .standard hn (Option.bind_eq_none_iff.1 hf)

namespace Session

/-! ## The layer of the editor -/

/-- A moment brings options that are accepted: it is a greeting with options, which are not null and
set a layer. -/
def Moment.Accepts (m : Moment) (o : Overrides) : Prop :=
  ∃ g options, m.input = .greet g ∧ g.options = some options ∧ options ≠ .null ∧
    Settings.ofOptions options = .ok o

/-- The layer of the last options that a history has accepted. -/
def LastAccepted (history : List Moment) (o : Overrides) : Prop :=
  ∃ before m later, history = before ++ m :: later ∧ m.Accepts o ∧ ∀ n ∈ later, ∀ o', ¬ n.Accepts o'

/-- The layer that a moment brings, if it brings one. -/
def Moment.layer? (m : Moment) : Option Overrides :=
  match m.input with
  | .greet g => g.layer?
  | _ => none

theorem layer?_eq_some_iff {m : Moment} (hm : ∀ g, m.input = .greet g → g.options ≠ some .null) (o : Overrides) :
    m.layer? = some o ↔ m.Accepts o := by
  unfold Moment.layer? Moment.Accepts
  cases hi : m.input with
  | greet g =>
    dsimp only
    unfold Greeting.layer?
    have hnull := hm g hi
    constructor
    · intro h
      obtain ⟨options, ho, hl⟩ := Option.bind_eq_some_iff.1 h
      refine ⟨g, options, rfl, ho, fun hn => hnull (by rw [ho, hn]), ?_⟩
      cases hr : Settings.ofOptions options with
      | error e => rw [hr] at hl; cases hl
      | ok o' => rw [hr] at hl; cases hl; rfl
    · rintro ⟨g', options, hg, ho, -, hr⟩
      cases hg
      rw [ho, Option.bind_some, hr]
      rfl
  | _ => simp

theorem react_overrides (s : Session) (n : Nat) (m : Moment) :
    (s.react n m).session.overrides = m.layer?.getD s.overrides := by
  by_cases hm : ∃ g, m.input = .greet g
  · obtain ⟨g, hm⟩ := hm
    rw [react_greet s n hm, greet_session]
    unfold Moment.layer?
    rw [hm]
  · have hno : m.layer? = none := by
      unfold Moment.layer?
      split
      · next g hg => exact absurd ⟨g, hg⟩ hm
      · rfl
    rw [hno, (kept_react s n fun g hg => hm ⟨g, hg⟩).overrides]
    rfl

/-- The last layer that a history brings. -/
def lastLayer? (history : List Moment) : Option Overrides :=
  history.reverse.findSome? Moment.layer?

theorem overrides_past (first : Session) (history : List Moment) :
    (past first history).overrides = (lastLayer? history).getD first.overrides := by
  unfold lastLayer?
  induction history using List.reverseRecOn with
  | nil => rfl
  | append_singleton history m ih =>
    rw [past_concat, react_overrides, ih, List.reverse_append, List.reverse_singleton, List.singleton_append,
      List.findSome?_cons]
    cases m.layer? <;> rfl

theorem lastLayer?_eq_some_iff {history : List Moment}
    (hm : ∀ m ∈ history, ∀ g, m.input = .greet g → g.options ≠ some .null) (o : Overrides) :
    lastLayer? history = some o ↔ LastAccepted history o := by
  unfold lastLayer? LastAccepted
  rw [List.findSome?_eq_some_iff]
  constructor
  · rintro ⟨later, m, before, he, hl, hn⟩
    have he' : history = before.reverse ++ m :: later.reverse := by
      rw [← List.reverse_reverse history, he]
      simp
    refine ⟨before.reverse, m, later.reverse, he', (layer?_eq_some_iff (hm m (by simp [he'])) o).1 hl, ?_⟩
    intro n hlater o' ho'
    rw [← layer?_eq_some_iff (hm n (by rw [he']; simp_all)), hn n (List.mem_reverse.1 hlater)] at ho'
    cases ho'
  · rintro ⟨before, m, later, rfl, hl, hn⟩
    refine ⟨later.reverse, m, before.reverse, by simp, (layer?_eq_some_iff (hm m (by simp)) o).2 hl, ?_⟩
    intro n hlater
    have hlater := List.mem_reverse.1 hlater
    rw [Option.eq_none_iff_forall_ne_some]
    intro o' ho'
    exact hn n hlater o' ((layer?_eq_some_iff (hm n (by simp [hlater])) o').1 ho')

/-! ## The layer of the workspace -/

/-- The layer that the file in a session's workspace sets, if it can be read and is valid. -/
def SetsInFile (s : Session) (fs : Files) (o : Overrides) : Prop :=
  ∃ root, s.root = some root ∧ Settings.ofWorkspace fs root = .ok (some o)

/-- The layer of the file, if there is one. -/
def fileLayer? (s : Session) (fs : Files) : Option Overrides :=
  s.root.bind fun root => (Settings.ofWorkspace fs root).toOption.join

theorem fileLayer?_eq_some_iff (s : Session) (fs : Files) (o : Overrides) :
    s.fileLayer? fs = some o ↔ s.SetsInFile fs o := by
  unfold fileLayer? SetsInFile
  rw [Option.bind_eq_some_iff]
  refine exists_congr fun root => and_congr_right fun _ => ?_
  rcases Settings.ofWorkspace fs root with e | _ | layer <;> simp [Except.toOption]

/-! ## Settings -/

theorem begin_settings (s : Session) (fs : Files) :
    (s.begin fs).session.settings =
      (Settings.standard.apply ((s.fileLayer? fs).getD .none)).apply s.overrides := by
  have hbegin : (s.begin fs).session.settings = (s.gatherSettings fs).1 := by
    unfold begin
    dsimp only
    split <;> rfl
  rw [hbegin]
  unfold gatherSettings fileLayer?
  cases s.root with
  | none => rfl
  | some root =>
    simp only [Option.bind_some]
    rcases Settings.ofWorkspace fs root with e | _ | layer <;> rfl

/-- Two layers on the standard, told setting by setting. -/
theorem layered_eq (options file : Option Overrides) :
    (Settings.standard.apply (file.getD .none)).apply (options.getD .none) =
      ⟨((options.bind (·.languages)).or (file.bind (·.languages))).getD ["html", "javascript", "svelte"],
        ((options.bind (·.waitForIndex)).or (file.bind (·.waitForIndex))).getD true⟩ := by
  have hgetD : ∀ {α : Type} (field : Overrides → Option α) (standard : α), field .none = none →
      (field (options.getD .none)).getD ((field (file.getD .none)).getD standard) =
        ((options.bind field).or (file.bind field)).getD standard := by
    intro α field standard hnone
    have hbind : ∀ layer : Option Overrides, field (layer.getD .none) = layer.bind field := by
      intro layer
      cases layer with
      | none => exact hnone
      | some o => rfl
    rw [hbind, hbind]
    cases options.bind field <;> rfl
  exact congrArg₂ Settings.mk (hgetD (·.languages) _ rfl) (hgetD (·.waitForIndex) _ rfl)

/-- When a session begins to work, each setting is in force by the last options that were accepted, else
by the file in the workspace as it is then, else by the standard. -/
theorem settings_in_force (hasClient : Bool) (fallback : Fallback) (root : Option Path) (history : List Moment)
    (hm : ∀ m ∈ history, ∀ g, m.input = .greet g → ∃ params, Protocol.greetingOf params = .ok g) (fs : Files) :
    (∀ languages,
      (past (.new hasClient fallback root) (history ++ [⟨fs, .begin⟩])).settings.languages = languages ↔
        InForce (·.languages) ["html", "javascript", "svelte"] (LastAccepted history)
          (SetsInFile (past (.new hasClient fallback root) history) fs) languages) ∧
    ∀ waits,
      (past (.new hasClient fallback root) (history ++ [⟨fs, .begin⟩])).settings.waitForIndex = waits ↔
        InForce (·.waitForIndex) true (LastAccepted history)
          (SetsInFile (past (.new hasClient fallback root) history) fs) waits := by
  have hoptions : LastAccepted history = (lastLayer? history = some ·) := by
    funext o
    refine propext (lastLayer?_eq_some_iff (fun m hmem g hg => ?_) o).symm
    obtain ⟨params, hp⟩ := hm m hmem g hg
    exact greetingOf_options hp
  have hfile : SetsInFile (past (.new hasClient fallback root) history) fs =
      (fileLayer? (past (.new hasClient fallback root) history) fs = some ·) := by
    funext o
    exact propext (fileLayer?_eq_some_iff _ fs o).symm
  have hsettings : (past (.new hasClient fallback root) (history ++ [⟨fs, .begin⟩])).settings =
      (Settings.standard.apply ((fileLayer? (past (.new hasClient fallback root) history) fs).getD .none)).apply
        ((lastLayer? history).getD .none) := by
    rw [past_concat, react, begin_settings, overrides_past]
    rfl
  rw [hoptions, hfile, hsettings, layered_eq]
  exact ⟨fun _ => inForce_iff.symm, fun _ => inForce_iff.symm⟩

/-- The parameters of a greeting with options. -/
def sampleParams (options : Json) : Json :=
  .object [("processId", .null), ("capabilities", .object []), ("initializationOptions", options)]

/-- Options that set the languages. -/
def sampleOptions : Json := .object [("languages", .array [.text "vue"])]

/-- Options that are not accepted. -/
def sampleMistake : Json := .object [("waitForIndex", .text "no")]

/-- Three greetings, one with options, one with a mistake in them, and one with null. -/
def sampleGreetings : List Moment :=
  [⟨.empty [], .greet ⟨none, [], some sampleOptions⟩⟩, ⟨.empty [], .greet ⟨none, [], some sampleMistake⟩⟩,
    ⟨.empty [], .greet ⟨none, [], none⟩⟩]

/-- A workspace `/w` whose file sets that requests do not wait. -/
def sampleWorkspace : Files :=
  ⟨[([[0x77]], .directory),
    ([[0x77], Text.Utf8.encode Settings.fileName.toList], .file "waitForIndex = false".toUTF8)], []⟩

/-- The languages are then those of the first options, and waiting is as the file sets it. -/
theorem settings_by_both_layers :
    (∀ m ∈ sampleGreetings, ∀ g, m.input = .greet g → ∃ params, Protocol.greetingOf params = .ok g) ∧
    InForce (·.languages) ["html", "javascript", "svelte"] (LastAccepted sampleGreetings)
      (SetsInFile (past (.new true (.file ⟨[0x2F, 0x61]⟩) (some ⟨[0x2F, 0x77]⟩)) sampleGreetings) sampleWorkspace)
      ["vue"] ∧
    InForce (·.waitForIndex) true (LastAccepted sampleGreetings)
      (SetsInFile (past (.new true (.file ⟨[0x2F, 0x61]⟩) (some ⟨[0x2F, 0x77]⟩)) sampleGreetings) sampleWorkspace)
      false := by
  have hread : ∀ m ∈ sampleGreetings, ∀ g, m.input = .greet g → ∃ params, Protocol.greetingOf params = .ok g := by
    simp only [sampleGreetings, List.forall_mem_cons, List.not_mem_nil, false_imp_iff, implies_true, and_true]
    refine ⟨?_, ?_, ?_⟩ <;> rintro g ⟨⟩
    · exact ⟨sampleParams sampleOptions, by with_unfolding_all rfl⟩
    · exact ⟨sampleParams sampleMistake, by with_unfolding_all rfl⟩
    · exact ⟨sampleParams .null, by with_unfolding_all rfl⟩
  obtain ⟨hlanguages, hwaits⟩ := settings_in_force true (.file ⟨[0x2F, 0x61]⟩) (some ⟨[0x2F, 0x77]⟩) sampleGreetings
    hread sampleWorkspace
  exact ⟨hread, (hlanguages _).1 (by decide +kernel), (hwaits _).1 (by decide +kernel)⟩

end Session

end ClassAtlas
