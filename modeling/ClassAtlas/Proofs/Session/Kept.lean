/-
What a moment leaves alone. Only a greeting names the root of the workspace and the editor's layer of
settings, only the beginning of the work tells the user anything, and the fallback and the editor
itself stay what they were (`Kept`).
-/
import ClassAtlas.Proofs.Session.Building

namespace ClassAtlas.Session

/-! ## One moment -/

/-- A session has kept what its greetings have told it, its fallback, and its editor. -/
structure Kept (s t : Session) : Prop where
  hasClient : t.hasClient = s.hasClient
  fallback : t.fallback = s.fallback
  root : t.root = s.root
  overrides : t.overrides = s.overrides

theorem Kept.refl (s : Session) : Kept s s := ⟨rfl, rfl, rfl, rfl⟩

theorem Kept.trans {s t u : Session} (h : Kept s t) (h' : Kept t u) : Kept s u :=
  ⟨h'.hasClient.trans h.hasClient, h'.fallback.trans h.fallback, h'.root.trans h.root,
    h'.overrides.trans h.overrides⟩

theorem kept_begin (s : Session) (fs : Files) : Kept s (s.begin fs).session := by
  unfold begin
  dsimp only
  split <;> exact ⟨rfl, rfl, rfl, rfl⟩

theorem kept_ask (s : Session) (fs : Files) (n : Nat) (uri : Uri) (p : Position) :
    Kept s (s.ask fs n uri p).session := by
  unfold ask
  split
  · exact .refl s
  · split
    · exact ⟨rfl, rfl, rfl, rfl⟩
    · exact .refl s

/-- Whatever is no greeting changes nothing that greetings tell. -/
theorem kept_react (s : Session) (n : Nat) {m : Moment} (hm : ∀ g, m.input ≠ .greet g) :
    Kept s (s.react n m).session := by
  obtain ⟨fs, input⟩ := m
  cases input with
  | greet g => exact absurd rfl (hm g)
  | begin => exact kept_begin s fs
  | asked uri p => exact kept_ask s fs n uri p
  | _ => exact ⟨rfl, rfl, rfl, rfl⟩

/-- The layer of settings that a greeting brings, if it has options and they are accepted. -/
def Greeting.layer? (g : Greeting) : Option Overrides :=
  g.options.bind fun options => (Settings.ofOptions options).toOption

/-- A greeting names the root and brings a layer, each if it can, and leaves everything else alone. -/
theorem greet_session (s : Session) (g : Greeting) :
    (s.greet g).1 =
      { s with
        root := g.rootPath.or s.root
        settings := g.layer?.elim s.settings s.settings.apply
        overrides := g.layer?.getD s.overrides } := by
  unfold greet Greeting.layer?
  cases g.options with
  | none => rfl
  | some options =>
    simp only [Option.bind_some]
    cases Settings.ofOptions options <;> rfl

theorem react_greet (s : Session) (n : Nat) {m : Moment} {g : Greeting} (hm : m.input = .greet g) :
    (s.react n m).session = (s.greet g).1 := by
  unfold react
  rw [hm]

theorem react_hasClient (s : Session) (n : Nat) (m : Moment) :
    (s.react n m).session.hasClient = s.hasClient := by
  by_cases hm : ∃ g, m.input = .greet g
  · obtain ⟨g, hm⟩ := hm
    rw [react_greet s n hm, greet_session]
  · exact (kept_react s n fun g hg => hm ⟨g, hg⟩).hasClient

/-- Only the beginning of the work tells the user anything. -/
theorem react_notices (s : Session) (n : Nat) {m : Moment} (hm : m.input ≠ .begin) :
    (s.react n m).notices = [] := by
  obtain ⟨fs, input⟩ := m
  cases input with
  | begin => exact absurd rfl hm
  | buildEnds => exact ite_self _
  | buildBreaks text => exact ite_self _
  | asked uri p =>
    simp only [react, ask]
    split
    · rfl
    · split
      · exact ite_self _
      · rfl
  | _ => rfl

/-! ## All moments -/

theorem kept_after (s : Session) (n : Nat) {ms : List Moment} (hm : ∀ m ∈ ms, ∀ g, m.input ≠ .greet g) :
    Kept s (s.after n ms) := by
  induction ms generalizing s n with
  | nil => exact .refl s
  | cons m ms ih =>
    have hhead := kept_react s n (hm m List.mem_cons_self)
    exact hhead.trans (ih _ (n + 1) fun m' h => hm m' (List.mem_cons_of_mem m h))

theorem past_hasClient (first : Session) (history : List Moment) :
    (past first history).hasClient = first.hasClient := by
  induction history using List.reverseRecOn with
  | nil => rfl
  | append_singleton history m ih => rw [past_concat, react_hasClient, ih]

/-- What the user is told over some moments, the first of which has the given number. -/
def told (s : Session) (number : Nat) : List Moment → List Notice
  | [] => []
  | m :: ms => (s.react number m).notices ++ (s.react number m).session.told (number + 1) ms

theorem told_eq_nil (s : Session) (n : Nat) {ms : List Moment} (hm : ∀ m ∈ ms, m.input ≠ .begin) :
    s.told n ms = [] := by
  induction ms generalizing s n with
  | nil => rfl
  | cons m ms ih =>
    rw [told, react_notices s n (hm m List.mem_cons_self),
      ih _ (n + 1) fun m' h => hm m' (List.mem_cons_of_mem m h)]
    rfl

end ClassAtlas.Session
