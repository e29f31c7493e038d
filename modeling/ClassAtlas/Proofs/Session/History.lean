/-
Sessions as histories. A session is what a first session has become after a history, a list of
moments; at each moment something comes in while the files stand in some way, and between moments
the files may change at will. The build of an index ends, or is broken off, at a moment of its own.

A document is open as the history says it: opened, not closed or opened anew since, with the last
text that came for it (`documents_past`).
-/
import ClassAtlas.Session
import Mathlib.Data.List.Induction

namespace ClassAtlas

/-- A document as it was opened, with the last of some texts that came for it, if any came. -/
def Document.withLast (opened : Document) (texts : List String) : Document :=
  { opened with text := texts.getLast?.getD opened.text }

@[simp] theorem withLast_nil (d : Document) : d.withLast [] = d := rfl

theorem withLast_append (d : Document) (a b : List String) :
    d.withLast (a ++ b) = (d.withLast a).withLast b := by
  unfold Document.withLast
  rw [List.getLast?_append]
  cases b.getLast? <;> simp

namespace Documents

theorem get?_empty (uri : String) : Documents.empty.get? uri = none := by
  simp [empty, get?]

theorem get?_insert (d : Documents) (u : String) (document : Document) (uri : String) :
    (d.insert u document).get? uri = if u = uri then some document else d.get? uri := by
  unfold insert get?
  rw [Std.TreeMap.getElem?_insert]
  simp only [Std.LawfulEqOrd.compare_eq_iff_eq]

theorem get?_erase (d : Documents) (u uri : String) :
    (d.erase u).get? uri = if u = uri then none else d.get? uri := by
  unfold erase get?
  rw [Std.TreeMap.getElem?_erase]
  simp only [Std.LawfulEqOrd.compare_eq_iff_eq]

/-- Texts that come for one document leave the others alone. -/
theorem get?_change (d : Documents) (u : String) (texts : List String) (uri : String) :
    (d.change u texts).get? uri = if u = uri then (d.get? uri).map (·.withLast texts) else d.get? uri := by
  unfold change Document.withLast
  cases ht : texts.getLast? with
  | none => simp
  | some text =>
    cases hd : d.get? u with
    | none =>
      dsimp only
      split
      · next h => subst h; rw [hd]; rfl
      · rfl
    | some document =>
      dsimp only
      rw [get?_insert]
      split
      · next h => subst h; rw [hd]; rfl
      · rfl

end Documents

namespace Session

theorem greet_documents (s : Session) (g : Greeting) : (s.greet g).1.documents = s.documents := by
  unfold greet
  cases g.options with
  | none => rfl
  | some options =>
    dsimp only
    cases Settings.ofOptions options <;> rfl

theorem begin_documents (s : Session) (fs : Files) : (s.begin fs).session.documents = s.documents := by
  unfold begin
  dsimp only
  split <;> rfl

theorem ask_documents (s : Session) (fs : Files) (n : Nat) (uri : Uri) (p : Position) :
    (s.ask fs n uri p).session.documents = s.documents := by
  unfold ask
  split
  · rfl
  · split <;> rfl

/-- What may come in. -/
inductive Input
  | greet (g : Greeting)
  | begin
  | buildEnds
  | buildBreaks (text : String)
  | opened (uri : Uri) (document : Document)
  | changed (uri : Uri) (texts : List String)
  | closed (uri : Uri)
  | asked (uri : Uri) (position : Position)

/-- Something that comes in, and the files at that moment. -/
structure Moment where
  files : Files
  input : Input

/-- How a session reacts to a moment; a request that comes in gets the given number. -/
def react (s : Session) (number : Nat) (m : Moment) : Reaction :=
  match m.input with
  | .greet g => ⟨(s.greet g).1, m.files, (s.greet g).2, [], []⟩
  | .begin => s.begin m.files
  | .buildEnds => s.runBuild m.files
  | .buildBreaks text => s.interruptBuild m.files text
  | .opened uri document =>
    ⟨(s.openDocument uri document).1, m.files, (s.openDocument uri document).2, [], []⟩
  | .changed uri texts => ⟨s.changeDocument uri texts, m.files, [], [], []⟩
  | .closed uri => ⟨(s.closeDocument uri).1, m.files, (s.closeDocument uri).2, [], []⟩
  | .asked uri position => s.ask m.files number uri position

/-- The session after some moments, the first of which has the given number. -/
def after (s : Session) (number : Nat) : List Moment → Session
  | [] => s
  | m :: ms => (s.react number m).session.after (number + 1) ms

/-- What a first session has become after a history. Moments are numbered from zero. -/
def past (first : Session) (history : List Moment) : Session :=
  first.after 0 history

theorem after_append (s : Session) (n : Nat) (a b : List Moment) :
    s.after n (a ++ b) = (s.after n a).after (n + a.length) b := by
  induction a generalizing s n with
  | nil => rfl
  | cons m ms ih =>
    rw [List.cons_append, after, ih, List.length_cons, after]
    congr 1
    omega

@[simp] theorem past_nil (first : Session) : past first [] = first := rfl

theorem past_concat (first : Session) (history : List Moment) (m : Moment) :
    past first (history ++ [m]) = ((past first history).react history.length m).session := by
  unfold past
  rw [after_append, Nat.zero_add]
  rfl

/-! ## Documents by history -/

namespace Moment

/-- The document that a moment opens under a URI. -/
def opens? (uri : String) (m : Moment) : Option Document :=
  match m.input with
  | .opened u document => if u.text = uri then some document else none
  | _ => none

/-- Whether a moment closes the document under a URI. -/
def closes (uri : String) (m : Moment) : Bool :=
  match m.input with
  | .closed u => u.text = uri
  | _ => false

/-- The texts that a moment brings for the document under a URI. -/
def textsFor (uri : String) (m : Moment) : List String :=
  match m.input with
  | .changed u texts => if u.text = uri then texts else []
  | _ => []

end Moment

/-- By a history, a document is open under a URI: it was opened, has been neither closed nor opened
anew since, and its text is the last that has come for it since. -/
def OpenAs (history : List Moment) (uri : String) (d : Document) : Prop :=
  ∃ before m since opened, history = before ++ m :: since ∧ m.opens? uri = some opened ∧
    (∀ n ∈ since, n.opens? uri = none ∧ n.closes uri = false) ∧
    d = opened.withLast (since.flatMap (Moment.textsFor uri))

theorem not_openAs_nil (uri : String) (d : Document) : ¬ OpenAs [] uri d := by
  rintro ⟨before, m, since, opened, h, -⟩
  simp at h

/-- One more moment: it opens the document, or closes it, or leaves it open with the texts it brings. -/
theorem openAs_concat (history : List Moment) (m : Moment) (uri : String) (d : Document) :
    OpenAs (history ++ [m]) uri d ↔
      match m.opens? uri with
      | some opened => d = opened
      | none => m.closes uri = false ∧ ∃ d', OpenAs history uri d' ∧ d = d'.withLast (m.textsFor uri) := by
  constructor
  · -- the moment that opened the document is the new one, or the new one comes after it
    rintro ⟨before, o, since, opened, h, ho, hs, hd⟩
    rcases List.eq_nil_or_concat since with rfl | ⟨since, l, rfl⟩
    · obtain ⟨-, hm⟩ := List.append_inj' h rfl
      cases hm
      rw [ho]
      exact hd
    · rw [List.concat_eq_append] at h hs hd
      rw [← List.cons_append, ← List.append_assoc] at h
      obtain ⟨hh, hm⟩ := List.append_inj' h rfl
      cases hm
      obtain ⟨hn, hc⟩ := hs m (by simp)
      rw [hn]
      refine ⟨hc, opened.withLast (since.flatMap (Moment.textsFor uri)),
        ⟨before, o, since, opened, hh, ho, fun n hn => hs n (by simp [hn]), rfl⟩, ?_⟩
      rw [hd, List.flatMap_append]
      simp only [List.flatMap_cons, List.flatMap_nil, List.append_nil]
      exact withLast_append _ _ _
  · cases hm : m.opens? uri with
    | some opened =>
      rintro rfl
      exact ⟨history, m, [], d, rfl, hm, by simp, rfl⟩
    | none =>
      rintro ⟨hc, d', ⟨before, o, since, opened, rfl, ho, hs, rfl⟩, rfl⟩
      refine ⟨before, o, since ++ [m], opened, by simp, ho, fun n hn => ?_, ?_⟩
      · rcases List.mem_append.1 hn with hn | hn
        · exact hs n hn
        · rw [List.mem_singleton.1 hn]; exact ⟨hm, hc⟩
      · rw [List.flatMap_append]
        simp only [List.flatMap_cons, List.flatMap_nil, List.append_nil]
        exact (withLast_append _ _ _).symm

/-! ## The store of documents -/

/-- What a moment does to the document under a URI. -/
theorem react_documents (s : Session) (n : Nat) (m : Moment) (uri : String) :
    (s.react n m).session.documents.get? uri =
      match m.opens? uri with
      | some opened => some opened
      | none => if m.closes uri then none else (s.documents.get? uri).map (·.withLast (m.textsFor uri)) := by
  obtain ⟨files, input⟩ := m
  cases input with
  | greet g =>
    simp only [react, Moment.opens?, Moment.closes, Moment.textsFor, greet_documents]
    simp
  | begin => simp [react, Moment.opens?, Moment.closes, Moment.textsFor, begin_documents]
  | buildEnds => simp [react, Moment.opens?, Moment.closes, Moment.textsFor, runBuild, follow]
  | buildBreaks text => simp [react, Moment.opens?, Moment.closes, Moment.textsFor, interruptBuild, follow]
  | opened u document =>
    simp only [react, Moment.opens?, Moment.closes, Moment.textsFor, openDocument, Documents.get?_insert]
    split <;> simp
  | changed u texts =>
    simp only [react, Moment.opens?, Moment.closes, Moment.textsFor, changeDocument, Documents.get?_change]
    split <;> simp
  | closed u =>
    simp only [react, Moment.opens?, Moment.closes, Moment.textsFor, closeDocument, Documents.get?_erase]
    by_cases h : u.text = uri <;> simp [h]
  | asked u p => simp [react, Moment.opens?, Moment.closes, Moment.textsFor, ask_documents]

/-- The store holds what the history says. -/
theorem documents_past {first : Session} (hf : first.documents = .empty) (history : List Moment) (uri : String)
    (d : Document) : (past first history).documents.get? uri = some d ↔ OpenAs history uri d := by
  induction history using List.reverseRecOn generalizing d with
  | nil => simp [hf, Documents.get?_empty, not_openAs_nil]
  | append_singleton history m ih =>
    rw [past_concat, react_documents, openAs_concat]
    cases m.opens? uri with
    | some opened => simp [eq_comm]
    | none =>
      dsimp only
      cases m.closes uri with
      | true => simp
      | false =>
        simp only [Bool.false_eq_true, if_false, true_and, Option.map_eq_some_iff, ih]
        constructor
        · rintro ⟨d', h, rfl⟩; exact ⟨d', h, rfl⟩
        · rintro ⟨d', h, rfl⟩; exact ⟨d', h, rfl⟩

end Session

end ClassAtlas
