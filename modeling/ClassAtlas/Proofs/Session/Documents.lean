/-
Documents as the editor has them. After any steps of a session a request for a definition sees the
document that was opened last under its URI, if it has not been closed since, in the language it was opened
in and with the last text that has come for it since. It sees nothing of other documents, and it does not
matter in which order things happen to different documents (`mirrors_afterSteps`). Documents are told apart
by the text of their URIs, which is the same for all spellings that mean the same.
-/
import ClassAtlas.Proofs.Session.Isolation
import ClassAtlas.Uri.Reader
import Mathlib.Data.List.Forall2

namespace ClassAtlas.Session

/-! ## After some steps -/

/-- The session after some steps, the first of which has the given number. -/
def afterSteps (s : Session) (number : Nat) : List Step → Session
  | [] => s
  | x :: xs => (s.step number x).session.afterSteps (number + 1) xs

/-- What comes in over some steps. -/
def momentsOf (xs : List Step) : List Moment :=
  xs.filterMap fun
    | .moment m => some m
    | _ => none

theorem afterSteps_concat (s : Session) (n : Nat) (xs : List Step) (x : Step) :
    s.afterSteps n (xs ++ [x]) = ((s.afterSteps n xs).step (n + xs.length) x).session := by
  induction xs generalizing s n with
  | nil => rfl
  | cons y xs ih =>
    rw [List.cons_append, afterSteps, ih, List.length_cons, afterSteps, Nat.add_right_comm, Nat.add_assoc]

/-- Only what comes in counts for the documents. -/
theorem documents_afterSteps (first : Session) (n : Nat) (xs : List Step) (uri : String) :
    (first.afterSteps n xs).documents.get? uri = (past first (momentsOf xs)).documents.get? uri := by
  induction xs using List.reverseRecOn with
  | nil => rfl
  | append_singleton xs x ih =>
    have hmoments : momentsOf (xs ++ [x]) = momentsOf xs ++ momentsOf [x] := List.filterMap_append
    rw [afterSteps_concat, hmoments]
    cases x with
    | moment m =>
      have hm : momentsOf [.moment m] = [m] := rfl
      rw [hm, past_concat, step, react_documents, react_documents, ih]
    | held files =>
      have hm : momentsOf [.held files] = [] := rfl
      rw [hm, List.append_nil, ← ih]
      rfl
    | brought files result =>
      have hm : momentsOf [.brought files result] = [] := rfl
      rw [hm, List.append_nil, ← ih]
      rfl

/-! ## The last opening and the last text -/

/-- A history opens a document for the last time, and some moments come since. -/
def OpenedLast (history : List Moment) (uri : String) (opened : Document) (since : List Moment) : Prop :=
  ∃ before m, history = before ++ m :: since ∧ m.opens? uri = some opened ∧ ∀ n ∈ since, n.opens? uri = none

/-- The text that some moments leave a document with: the last one of the last moment that brings any for it,
or the one with which it was opened if none does. -/
inductive LastText (uri : String) (opened : String) (since : List Moment) : String → Prop
  | changed {earlier later : List Moment} {m : Moment} {texts : List String} {text : String} :
      since = earlier ++ m :: later → m.textsFor uri = texts ++ [text] → (∀ n ∈ later, n.textsFor uri = []) →
      LastText uri opened since text
  | unchanged : (∀ n ∈ since, n.textsFor uri = []) → LastText uri opened since opened

/-- A moment that brings no text for a document leaves it with the text it has. -/
theorem LastText.concat {uri opened text : String} {since : List Moment} (h : LastText uri opened since text)
    {m : Moment} (hm : m.textsFor uri = []) : LastText uri opened (since ++ [m]) text := by
  have hsilent : ∀ {l : List Moment}, (∀ n ∈ l, n.textsFor uri = []) → ∀ n ∈ l ++ [m], n.textsFor uri = [] := by
    intro l hl n hn
    rcases List.mem_append.1 hn with hn | hn
    · exact hl n hn
    · rw [List.mem_singleton.1 hn, hm]
  cases h with
  | @changed earlier later _ _ _ hsince htexts hlater =>
    exact .changed (by rw [hsince, List.append_assoc, List.cons_append]) htexts (hsilent hlater)
  | unchanged hall => exact .unchanged (hsilent hall)

theorem lastText_iff (uri : String) (opened : String) (since : List Moment) (text : String) :
    LastText uri opened since text ↔ (since.flatMap (Moment.textsFor uri)).getLast?.getD opened = text := by
  constructor
  · rintro (⟨rfl, hm, hlater⟩ | hall)
    · rw [List.flatMap_append, List.flatMap_cons, List.flatMap_eq_nil_iff.2 hlater, List.append_nil, hm,
        ← List.append_assoc, List.getLast?_concat]
      rfl
    · rw [List.flatMap_eq_nil_iff.2 hall]
      rfl
  · rintro rfl
    induction since using List.reverseRecOn with
    | nil => exact .unchanged (List.forall_mem_nil _)
    | append_singleton since m ih =>
      rw [List.flatMap_append, List.flatMap_singleton]
      rcases List.eq_nil_or_concat (m.textsFor uri) with hm | ⟨texts, text, hm⟩
      · rw [hm, List.append_nil]
        exact ih.concat hm
      · rw [List.concat_eq_append] at hm
        rw [hm, ← List.append_assoc, List.getLast?_concat]
        exact .changed rfl hm (List.forall_mem_nil _)

/-- A history says of a document that it is open if it opens it for the last time and does not close it
since. -/
theorem openAs_iff (history : List Moment) (uri : String) (d : Document) :
    OpenAs history uri d ↔ ∃ opened since, OpenedLast history uri opened since ∧
      (∀ m ∈ since, m.closes uri = false) ∧ d.language = opened.language ∧
      LastText uri opened.text since d.text := by
  have hlast : ∀ (opened : Document) (since : List Moment),
      d = opened.withLast (since.flatMap (Moment.textsFor uri)) ↔
        d.language = opened.language ∧ LastText uri opened.text since d.text := by
    intro opened since
    rw [lastText_iff]
    obtain ⟨language, text⟩ := d
    unfold Document.withLast
    rw [Document.mk.injEq, eq_comm (a := text)]
  constructor
  · rintro ⟨before, m, since, opened, hh, hm, hs, hd⟩
    exact ⟨opened, since, ⟨before, m, hh, hm, fun n hn => (hs n hn).1⟩, fun n hn => (hs n hn).2,
      (hlast opened since).1 hd⟩
  · rintro ⟨opened, since, ⟨before, m, hh, hm, hs⟩, hc, hd⟩
    exact ⟨before, m, since, opened, hh, hm, fun n hn => ⟨hs n hn, hc n hn⟩, (hlast opened since).2 hd⟩

/-! ## Events of one document -/

/-- The URI of the document that is opened, changed or closed at a moment. -/
def Moment.about? (m : Moment) : Option Uri :=
  match m.input with
  | .opened uri _ => some uri
  | .changed uri _ => some uri
  | .closed uri => some uri
  | _ => none

/-- Whether a step opens, changes or closes the document under a URI. -/
def Step.concerns (uri : String) : Step → Bool
  | .moment m => m.about?.any fun u => u.text == uri
  | _ => false

/-- What is about no document, or about another one, is not about a document. -/
theorem not_about {m : Moment} {uri : String} (hm : ∀ u ∈ m.about?, u.text ≠ uri) :
    m.opens? uri = none ∧ m.closes uri = false ∧ m.textsFor uri = [] := by
  obtain ⟨files, input⟩ := m
  unfold Moment.about? at hm
  unfold Moment.opens? Moment.closes Moment.textsFor
  cases input with
  | opened u document =>
    have hu : u.text ≠ uri := hm u rfl
    simp [hu]
  | changed u texts =>
    have hu : u.text ≠ uri := hm u rfl
    simp [hu]
  | closed u =>
    have hu : u.text ≠ uri := hm u rfl
    simp [hu]
  | _ => exact ⟨rfl, rfl, rfl⟩

theorem withLast_id (o : Option Document) : o.map (·.withLast []) = o := by
  cases o <;> rfl

/-- What happens to other documents leaves a document alone. -/
theorem react_documents_of_not_about (s : Session) (n : Nat) {m : Moment} {uri : String}
    (hm : ∀ u ∈ m.about?, u.text ≠ uri) :
    (s.react n m).session.documents.get? uri = s.documents.get? uri := by
  obtain ⟨hopens, hcloses, htexts⟩ := not_about hm
  rw [react_documents, hopens, hcloses, htexts]
  exact withLast_id _

theorem step_documents_of_not_concerns (s : Session) (n : Nat) {x : Step} {uri : String}
    (hx : x.concerns uri = false) : (s.step n x).session.documents.get? uri = s.documents.get? uri := by
  cases x with
  | moment m =>
    refine react_documents_of_not_about s n fun u hu htext => ?_
    rw [Step.concerns, Option.mem_def.1 hu, Option.any_some, htext, beq_self_eq_true] at hx
    cases hx
  | held files => rfl
  | brought files result => rfl

/-- What a step makes of a document depends on nothing but that document. -/
theorem step_documents_congr {s t : Session} {uri : String} (h : s.documents.get? uri = t.documents.get? uri)
    (n k : Nat) (x : Step) :
    (s.step n x).session.documents.get? uri = (t.step k x).session.documents.get? uri := by
  cases x with
  | moment m => rw [step, step, react_documents, react_documents, h]
  | held files => exact h
  | brought files result => exact h

/-- The document under a URI is what the steps that are about it make of it. -/
theorem documents_filter (first : Session) (n : Nat) (xs : List Step) (uri : String) :
    (first.afterSteps n (xs.filter (Step.concerns uri))).documents.get? uri =
      (first.afterSteps n xs).documents.get? uri := by
  induction xs using List.reverseRecOn with
  | nil => rfl
  | append_singleton xs x ih =>
    rw [List.filter_append, afterSteps_concat]
    cases hx : x.concerns uri with
    | true =>
      rw [List.filter_singleton, hx, cond_true, afterSteps_concat]
      exact step_documents_congr ih _ _ x
    | false =>
      rw [List.filter_singleton, hx, cond_false, List.append_nil,
        step_documents_of_not_concerns _ _ hx, ih]

/-! ## What a request sees -/

/-- A reaction, with other documents in its session. -/
def Reaction.withDocuments (r : Reaction) (documents : Documents) : Reaction :=
  { r with session := { r.session with documents } }

/-- A request sees of all documents only the one it is about. -/
theorem ask_withDocuments (s : Session) {documents : Documents} {uri : Uri}
    (h : documents.get? uri.text = s.documents.get? uri.text) (fs : Files) (n : Nat) (p : Position) :
    { s with documents }.ask fs n uri p = (s.ask fs n uri p).withDocuments documents := by
  unfold ask servedDocument?
  dsimp only
  rw [h]
  split
  · rfl
  · split <;> rfl

/-- Changes to a document that is not open, or without any text, are of no effect. -/
theorem changeDocument_eq_self {s : Session} {uri : Uri} {texts : List String}
    (h : s.documents.get? uri.text = none ∨ texts = []) : s.changeDocument uri texts = s := by
  have hdocuments : s.documents.change uri.text texts = s.documents := by
    unfold Documents.change
    rcases h with h | rfl
    · rw [h]
      cases texts.getLast? <;> rfl
    · rfl
  unfold changeDocument
  rw [hdocuments]

/-- A session apart from its documents. -/
def bare (s : Session) : Session := { s with documents := .empty }

/-- What happens to a document changes nothing of a session but its documents, and is logged alike whatever
the session. -/
structure OfDocuments (s : Session) (n : Nat) (m : Moment) : Prop where
  others : (s.react n m).session.bare = s.bare
  files : (s.react n m).files = m.files
  events : ∀ t k, (react t k m).events = (s.react n m).events
  notices : (s.react n m).notices = []
  answers : (s.react n m).answers = []

theorem ofDocuments_of_about (s : Session) (n : Nat) {m : Moment} {u : Uri} (hm : m.about? = some u) :
    OfDocuments s n m := by
  obtain ⟨files, input⟩ := m
  cases input with
  | opened uri document => exact ⟨rfl, rfl, fun _ _ => rfl, rfl, rfl⟩
  | changed uri texts => exact ⟨rfl, rfl, fun _ _ => rfl, rfl, rfl⟩
  | closed uri => exact ⟨rfl, rfl, fun _ _ => rfl, rfl, rfl⟩
  | _ => cases hm

/-! ## Sessions with the same documents -/

/-- Two sessions are alike if the same document is open in both under each URI, and everything else is the
same. -/
structure Alike (s t : Session) : Prop where
  others : t.bare = s.bare
  documents : ∀ uri, t.documents.get? uri = s.documents.get? uri

/-- Two reactions are alike if their sessions are, and everything else is the same. -/
structure Reaction.Alike (r r' : Reaction) : Prop where
  session : r.session.Alike r'.session
  files : r'.files = r.files
  events : r'.events = r.events
  notices : r'.notices = r.notices
  answers : r'.answers = r.answers

/-- A reaction that other documents leave as it is. -/
theorem Reaction.alike_withDocuments {r : Reaction} {documents : Documents}
    (h : ∀ uri, documents.get? uri = r.session.documents.get? uri) : r.Alike (r.withDocuments documents) :=
  ⟨⟨rfl, h⟩, rfl, rfl, rfl, rfl⟩

theorem begin_withDocuments (s : Session) (documents : Documents) (fs : Files) :
    { s with documents }.begin fs = (s.begin fs).withDocuments documents := by
  have hchoose : { s with documents }.choose fs = s.choose fs := rfl
  unfold begin
  dsimp only
  rw [hchoose]
  split <;> rfl

/-- What is about no document treats all documents alike. -/
theorem step_withDocuments (s : Session) {documents : Documents}
    (h : ∀ uri, documents.get? uri = s.documents.get? uri) (n : Nat) {x : Step}
    (hx : ∀ m, x = .moment m → m.about? = none) :
    { s with documents }.step n x = (s.step n x).withDocuments documents := by
  cases x with
  | held files => rfl
  | brought files result => rfl
  | moment m =>
    obtain ⟨fs, input⟩ := m
    have hm := hx _ rfl
    cases input with
    | greet g =>
      unfold step react greet
      dsimp only
      split
      · rfl
      · split <;> rfl
    | begin => exact begin_withDocuments s documents fs
    | buildEnds => rfl
    | buildBreaks text => rfl
    | asked uri p => exact ask_withDocuments s (h uri.text) fs n p
    | opened uri document => cases hm
    | changed uri texts => cases hm
    | closed uri => cases hm

/-- Alike sessions react alike. -/
theorem step_alike {s t : Session} (h : s.Alike t) (n : Nat) (x : Step) : (s.step n x).Alike (t.step n x) := by
  obtain ⟨hothers, hdocuments⟩ := h
  have hafter : ∀ uri, (t.step n x).session.documents.get? uri = (s.step n x).session.documents.get? uri :=
    fun uri => step_documents_congr (hdocuments uri) n n x
  by_cases hx : ∃ m u, x = .moment m ∧ m.about? = some u
  · obtain ⟨m, u, rfl, hm⟩ := hx
    have hs := ofDocuments_of_about s n hm
    have ht := ofDocuments_of_about t n hm
    exact ⟨⟨ht.others.trans (hothers.trans hs.others.symm), hafter⟩, ht.files.trans hs.files.symm,
      hs.events t n, ht.notices.trans hs.notices.symm, ht.answers.trans hs.answers.symm⟩
  · have hnone : ∀ m, x = .moment m → m.about? = none := by
      intro m hm
      cases hu : m.about? with
      | none => rfl
      | some u => exact absurd ⟨m, u, hm, hu⟩ hx
    have hstep := step_withDocuments s hdocuments n hnone
    have ht : { s with documents := t.documents } = t :=
      congrArg (fun r : Session => { r with documents := t.documents }) hothers.symm
    rw [ht] at hstep
    rw [hstep]
    refine Reaction.alike_withDocuments fun uri => ?_
    rw [← hafter, hstep]
    rfl

/-- Alike sessions react alike to whatever follows. -/
theorem run_alike {s t : Session} (h : s.Alike t) (n : Nat) (xs : List Step) :
    List.Forall₂ Reaction.Alike (s.run n xs) (t.run n xs) := by
  induction xs generalizing s t n with
  | nil => exact .nil
  | cons x xs ih =>
    have hx := step_alike h n x
    exact .cons hx (ih hx.session (n + 1))

/-- What happens to different documents may happen in either order. -/
theorem react_comm (s : Session) (n : Nat) {a b : Moment} {u v : Uri} (ha : a.about? = some u)
    (hb : b.about? = some v) (huv : u.text ≠ v.text) :
    ((s.react n a).session.react (n + 1) b).session.Alike ((s.react n b).session.react (n + 1) a).session where
  others :=
    (ofDocuments_of_about _ _ ha).others.trans <| (ofDocuments_of_about _ _ hb).others.trans <|
      (ofDocuments_of_about _ _ ha).others.symm.trans (ofDocuments_of_about _ _ hb).others.symm
  documents uri := by
    -- one of the two is not about the document under the URI
    by_cases hu : u.text = uri
    · have hother : ∀ w ∈ b.about?, w.text ≠ uri := by
        rw [hb]
        rintro _ ⟨⟩
        rw [← hu]
        exact huv.symm
      have hb' := react_documents_of_not_about s n hother
      rw [react_documents_of_not_about _ _ hother]
      exact step_documents_congr hb' (n + 1) n (.moment a)
    · have hother : ∀ w ∈ a.about?, w.text ≠ uri := by
        rw [ha]
        rintro _ ⟨⟩
        exact hu
      have ha' := react_documents_of_not_about s n hother
      rw [react_documents_of_not_about _ _ hother]
      exact step_documents_congr ha'.symm n (n + 1) (.moment b)

/-! ## All of it -/

/-- The document under a URI is as the editor has it, in a session that has come of a first one by some
steps. -/
structure Mirrors (first s : Session) (xs : List Step) (uri : Uri) : Prop where
  /-- There is one exactly if it has not been closed since it was opened last. -/
  isOpen : (s.documents.get? uri.text).isSome = true ↔
    ∃ opened since, OpenedLast (momentsOf xs) uri.text opened since ∧ ∀ m ∈ since, m.closes uri.text = false
  /-- It has the language with which it was opened last, and the last text that has come since. -/
  document : ∀ d, s.documents.get? uri.text = some d ↔
    ∃ opened since, OpenedLast (momentsOf xs) uri.text opened since ∧ (∀ m ∈ since, m.closes uri.text = false) ∧
      d.language = opened.language ∧ LastText uri.text opened.text since d.text
  /-- A request sees this document, and nothing of the others. -/
  asked : ∀ documents : Documents, documents.get? uri.text = s.documents.get? uri.text → ∀ fs n p,
    { s with documents }.ask fs n uri p = (s.ask fs n uri p).withDocuments documents
  /-- Changes to it are of no effect if it is not open or if they bring no text. -/
  idle : ∀ texts, s.documents.get? uri.text = none ∨ texts = [] → ∀ fs n,
    s.react n ⟨fs, .changed uri texts⟩ = ⟨s, fs, [], [], []⟩
  /-- It is what the steps that are about it have made of it. -/
  own : (first.afterSteps 0 (xs.filter (Step.concerns uri.text))).documents.get? uri.text =
    s.documents.get? uri.text
  /-- What happens to another document makes no difference to a request about it. -/
  apart : ∀ m u, m.about? = some u → u.text ≠ uri.text → ∀ k fs n p,
    (s.react k m).session.ask fs n uri p =
      (s.ask fs n uri p).withDocuments (s.react k m).session.documents
  /-- If things happen to it and to another document, each of them is logged alike in either order, and
  whatever follows is alike. -/
  commute : ∀ a b u, a.about? = some uri → b.about? = some u → u.text ≠ uri.text → ∀ n ys,
    ((s.react n b).session.react (n + 1) a).events = (s.react n a).events ∧
    ((s.react n a).session.react (n + 1) b).events = (s.react n b).events ∧
    List.Forall₂ Reaction.Alike (((s.react n a).session.react (n + 1) b).session.run (n + 2) ys)
      (((s.react n b).session.react (n + 1) a).session.run (n + 2) ys)

/-- Whatever the steps, and whatever the URI, the documents of a session are as the editor has them. -/
theorem mirrors_afterSteps (hasClient : Bool) (fallback : Fallback) (root : Option Path) (xs : List Step)
    (uri : Uri) :
    Mirrors (.new hasClient fallback root) ((new hasClient fallback root).afterSteps 0 xs) xs uri := by
  have hdocument : ∀ d, ((new hasClient fallback root).afterSteps 0 xs).documents.get? uri.text = some d ↔
      ∃ opened since, OpenedLast (momentsOf xs) uri.text opened since ∧
        (∀ m ∈ since, m.closes uri.text = false) ∧ d.language = opened.language ∧
        LastText uri.text opened.text since d.text := by
    intro d
    rw [documents_afterSteps, documents_past rfl, openAs_iff]
  have hown := documents_filter (new hasClient fallback root) 0 xs uri.text
  generalize (new hasClient fallback root).afterSteps 0 xs = s at hdocument hown ⊢
  refine ⟨?_, hdocument, fun documents h fs n p => ask_withDocuments s h fs n p, ?_, hown, ?_, ?_⟩
  · rw [Option.isSome_iff_exists]
    constructor
    · rintro ⟨d, hd⟩
      obtain ⟨opened, since, hopened, hclosed, -⟩ := (hdocument d).1 hd
      exact ⟨opened, since, hopened, hclosed⟩
    · rintro ⟨opened, since, hopened, hclosed⟩
      obtain ⟨text, htext⟩ : ∃ text, LastText uri.text opened.text since text :=
        ⟨_, (lastText_iff _ _ _ _).2 rfl⟩
      exact ⟨⟨opened.language, text⟩, (hdocument _).2 ⟨opened, since, hopened, hclosed, rfl, htext⟩⟩
  · intro texts h fs n
    rw [react]
    dsimp only
    rw [changeDocument_eq_self h]
  · intro m u hm hu k fs n p
    have hother : ∀ w ∈ m.about?, w.text ≠ uri.text := by
      rw [hm]
      rintro _ ⟨⟩
      exact hu
    rw [← ask_withDocuments s (react_documents_of_not_about s k hother) fs n p]
    exact congrArg (fun r : Session => { r with documents := (s.react k m).session.documents }.ask fs n uri p)
      (ofDocuments_of_about s k hm).others
  · intro a b u ha hb hu n ys
    exact ⟨(ofDocuments_of_about _ n ha).events _ _, (ofDocuments_of_about _ n hb).events _ _,
      run_alike (react_comm _ n ha hb hu.symm) (n + 2) ys⟩

/-- A page is opened, closed and changed, opened again, and changed twice, the second time without a text, while
another page that is not open is changed and the build is held and brought a result. -/
def sampleEdits : List Step :=
  [.moment ⟨.empty [], .opened samplePage ⟨"html", "a"⟩⟩, .moment ⟨.empty [], .closed samplePage⟩,
    .moment ⟨.empty [], .changed samplePage ["b"]⟩, .moment ⟨.empty [], .opened samplePage ⟨"svelte", "c"⟩⟩,
    .held (.empty []), .moment ⟨.empty [], .changed samplePage ["d", "e"]⟩,
    .moment ⟨.empty [], .changed ⟨['f'], none, .rooted [['q']], none, none⟩ ["f"]⟩,
    .brought (.empty []) (.error (.interrupted "")), .moment ⟨.empty [], .changed samplePage []⟩]

/-- The page is open in the language of the second opening, with the last text of the change after it. -/
theorem sampleEdits_mirrored :
    ((new true (.file ⟨[0x2F, 0x61]⟩) none).afterSteps 0 sampleEdits).documents.get? samplePage.text =
        some ⟨"svelte", "e"⟩ ∧
      ∃ opened since, OpenedLast (momentsOf sampleEdits) samplePage.text opened since ∧
        opened.language = "svelte" ∧ LastText samplePage.text opened.text since "e" := by
  have hd : ((new true (.file ⟨[0x2F, 0x61]⟩) none).afterSteps 0 sampleEdits).documents.get? samplePage.text =
      some ⟨"svelte", "e"⟩ := by decide +kernel
  obtain ⟨opened, since, hopened, -, hlanguage, htext⟩ :=
    ((mirrors_afterSteps true (.file ⟨[0x2F, 0x61]⟩) none sampleEdits samplePage).document _).1 hd
  exact ⟨hd, opened, since, hopened, hlanguage.symm, htext⟩

/-- Two spellings of one URI have the same text. -/
example : (Uri.parse? "FILE:///a/../b").map Uri.text = (Uri.parse? "file:///b").map Uri.text := by
  decide +kernel

end ClassAtlas.Session
