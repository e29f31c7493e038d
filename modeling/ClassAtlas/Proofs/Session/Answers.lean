/-
What a definition request is answered, told from the history of the session alone (`answer_iff`).
The document and the settings are those of the moment at which the request came in; the index is the
one that is there when the answer is given, which is in the same moment or, if the request had to
wait, in the one that ends the build.
-/
import ClassAtlas.Proofs.Index.LastRule
import ClassAtlas.Proofs.Session.Building
import ClassAtlas.Proofs.Word

namespace ClassAtlas.Session

/-! ## Who is answered -/

/-- The answer to a request, from an index if there is one. -/
def Pending.answer (q : Pending) (index : Option Index) : Answer :=
  ⟨q.number, index.bind fun i => (i.declarationAt q.text q.position).1⟩

theorem mem_answerAll {index : Option Index} {released : List Pending} {a : Answer} :
    a ∈ (answerAll index released).1 ↔ ∃ q ∈ released, a = q.answer index := by
  unfold answerAll Pending.answer
  cases index with
  | none => simp [eq_comm]
  | some i => simp [eq_comm]

theorem mem_follow_answers {α : Type} {s : Session} {fs : Files} {before : List Event} {notices : List Notice}
    {change : Build.Change Pending α} {a : Answer} :
    a ∈ (s.follow fs before notices change).answers ↔
      ∃ q ∈ change.released, a = q.answer change.handle.state.index? :=
  mem_answerAll

/-- To begin to work answers requests that have waited, and only where it ends the build. -/
theorem mem_begin_answers {s : Session} {fs : Files} {a : Answer} (ha : a ∈ (s.begin fs).answers) :
    (s.begin fs).session.build.state.isOver = true ∧
      ∃ q ∈ s.build.waiting, a = q.answer (s.begin fs).session.build.state.index? := by
  rw [begin_build]
  unfold begin at ha
  dsimp only at ha
  cases hc : (s.choose fs).result with
  | error e =>
    rw [hc] at ha
    obtain ⟨q, hq, rfl⟩ := mem_follow_answers.1 ha
    obtain ⟨hover, hwaiting⟩ := Build.mem_fail_released _ hq
    exact ⟨hover, q, hwaiting, rfl⟩
  | ok chosen =>
    rw [hc] at ha
    obtain ⟨q, hq, -⟩ := mem_follow_answers.1 ha
    rw [Build.spawn_released] at hq
    cases hq

/-- A request is answered in the same moment, by nothing if it is not served and else from the index
that is there, unless it has to wait. -/
theorem mem_ask_answers {s : Session} {fs : Files} {n : Nat} {uri : Uri} {p : Position} {a : Answer}
    (ha : a ∈ (s.ask fs n uri p).answers) :
    (s.servedDocument? uri = none ∧ a = ⟨n, none⟩) ∨
      ∃ document, s.servedDocument? uri = some document ∧
        a = (Pending.mk n document.text p).answer (s.ask fs n uri p).session.build.state.index? := by
  unfold ask at ha ⊢
  cases hd : s.servedDocument? uri with
  | none =>
    rw [hd] at ha
    exact .inl ⟨rfl, List.mem_singleton.1 ha⟩
  | some document =>
    rw [hd] at ha
    refine .inr ⟨document, rfl, ?_⟩
    dsimp only at ha ⊢
    split at ha
    · next hw =>
      rw [if_pos hw]
      obtain ⟨q, hq, rfl⟩ := mem_follow_answers.1 ha
      rw [Build.mem_wait_released _ hq]
      rfl
    · next hw =>
      rw [if_neg hw]
      obtain ⟨q, hq, rfl⟩ := mem_answerAll.1 ha
      rw [List.mem_singleton.1 hq]

/-- A moment answers the request it brings, or requests that waited for the build it ends. -/
theorem mem_answers {s : Session} {n : Nat} {m : Moment} {a : Answer} (ha : a ∈ (s.react n m).answers) :
    (∃ uri p, m.input = .asked uri p ∧
      ((s.servedDocument? uri = none ∧ a = ⟨n, none⟩) ∨
        ∃ document, s.servedDocument? uri = some document ∧
          a = (Pending.mk n document.text p).answer (s.react n m).session.build.state.index?)) ∨
    ((s.react n m).session.build.state.isOver = true ∧
      ∃ q ∈ s.build.waiting, a = q.answer (s.react n m).session.build.state.index?) := by
  obtain ⟨files, input⟩ := m
  cases input with
  | asked uri p => exact .inl ⟨uri, p, rfl, mem_ask_answers ha⟩
  | begin => exact .inr (mem_begin_answers ha)
  | buildEnds | buildBreaks text =>
    obtain ⟨q, hq, rfl⟩ := mem_follow_answers.1 ha
    obtain ⟨hover, hwaiting⟩ := Build.mem_conclude_released _ hq
    exact .inr ⟨hover, q, hwaiting, rfl⟩
  | _ => cases ha

/-! ## What the answer is -/

/-- The stylesheet whose index is there after a history: the one that was taken up, built. -/
def Published (first : Session) (history : List Moment) (sheet : Sheet) (css : String) : Prop :=
  TakenUp first history sheet css ∧
    ∃ i, (past first history).build.state = .ready i ∧ (Index.ofText sheet css).1 = .ok i

/-- The class that a request selects: its document is open, in a language that the settings offer
definitions for, and the word under the position is the class. -/
def Selects (first : Session) (before : List Moment) (uri : Uri) (p : Position) (name : String) : Prop :=
  ∃ document, OpenAs before uri.text document ∧ document.language ∈ (past first before).settings.languages ∧
    Word.Under document.text p name.toList

/-- Where the class that a request selects is declared: in the stylesheet of the index that is there
after a history, at the last rule that lists the class. -/
def Declares (first : Session) (before history : List Moment) (uri : Uri) (p : Position) (d : Declaration) :
    Prop :=
  ∃ sheet css name rule, Published first history sheet css ∧ Selects first before uri p name ∧
    LastListing (Stylesheet.rulesOf (Stylesheet.scan css)) ("." ++ name) rule ∧
    Uri.ofPath? sheet.path = some d.uri ∧ rule.span = d.span

theorem servedDocument?_eq_some_iff (s : Session) (uri : Uri) (document : Document) :
    s.servedDocument? uri = some document ↔
      s.documents.get? uri.text = some document ∧ document.language ∈ s.settings.languages := by
  unfold servedDocument? Settings.serves
  rw [Option.filter_eq_some_iff, List.contains_iff_mem]

section Answer

variable {first : Session} {before : List Moment} {uri : Uri}

theorem selects_iff (hf : first.documents = .empty) {document : Document}
    (hd : (past first before).servedDocument? uri = some document) (p : Position) (name : String) :
    Selects first before uri p name ↔ Word.Under document.text p name.toList := by
  have hd' := (servedDocument?_eq_some_iff _ _ _).1 hd
  constructor
  · rintro ⟨d, ho, hl, hu⟩
    rw [← documents_past hf, hd'.1, Option.some.injEq] at ho
    rw [ho]
    exact hu
  · exact fun hu => ⟨document, (documents_past hf _ _ _).1 hd'.1, hd'.2, hu⟩

theorem not_selects (hf : first.documents = .empty) (hd : (past first before).servedDocument? uri = none)
    (p : Position) (name : String) : ¬ Selects first before uri p name := by
  rintro ⟨document, ho, hl, -⟩
  rw [← documents_past hf] at ho
  rw [(servedDocument?_eq_some_iff _ _ _).2 ⟨ho, hl⟩] at hd
  cases hd

/-- What a served request is answered, in terms of the class it selects. -/
theorem answer_eq_some_iff (hf : first.documents = .empty) (hb : first.build = .new) {document : Document}
    (hd : (past first before).servedDocument? uri = some document) (n : Nat) (p : Position)
    (history : List Moment) (d : Declaration) :
    ((Pending.mk n document.text p).answer (past first history).build.state.index?).declaration = some d ↔
      Declares first before history uri p d := by
  have hindex : ∀ i, (past first history).build.state.index? = some i ↔
      (past first history).build.state = .ready i := by
    intro i
    cases (past first history).build.state <;> simp [Build.State.index?]
  simp only [Pending.answer, Option.bind_eq_some_iff, Index.declarationAt_eq_some_iff,
    Index.classUnder_eq_some_iff, hindex, Declares, selects_iff hf hd]
  constructor
  · rintro ⟨i, hi, name, hu, hfind⟩
    obtain ⟨sheet, css, ht, ho⟩ := (sound_past hb history).ready i hi
    obtain ⟨huri, rule, hl, hspan⟩ := (Index.find?_ofText_iff ho name d).1 hfind
    exact ⟨sheet, css, name, rule, ⟨ht, i, hi, ho⟩, hu, hl, huri, hspan⟩
  · rintro ⟨sheet, css, name, rule, ⟨ht, i, hi, ho⟩, hu, hl, huri, hspan⟩
    exact ⟨i, hi, name, hu, (Index.find?_ofText_iff ho name d).2 ⟨huri, rule, hl, hspan⟩⟩

end Answer

/-- A history takes up one stylesheet at most. -/
theorem takenUp_unique {first : Session} {history : List Moment} {sheet sheet' : Sheet} {css css' : String}
    (h : TakenUp first history sheet css) (h' : TakenUp first history sheet' css') :
    sheet = sheet' ∧ css = css' := by
  obtain ⟨before, m, later, rfl, hm, hn, hc⟩ := h
  obtain ⟨before', m', later', he, hm', hn', hc'⟩ := h'
  obtain ⟨rfl, rfl⟩ := first_begin_unique hm hn hm' hn' he
  rw [hc, Except.ok.injEq, Prod.mk.injEq] at hc'
  exact hc'

/-- There is one stylesheet at most whose index is there. -/
theorem published_unique {first : Session} {history : List Moment} {sheet sheet' : Sheet} {css css' : String}
    (h : Published first history sheet css) (h' : Published first history sheet' css') :
    sheet = sheet' ∧ css = css' :=
  takenUp_unique h.1 h'.1

/-- Whether there is a location, once it is known which. -/
theorem isSome_of_eq_some_iff {first : Session} {before history : List Moment} {uri : Uri} {p : Position}
    {found : Option Declaration}
    (h : ∀ d, found = some d ↔ Declares first before history uri p d) :
    found.isSome ↔ ∃ sheet css name, Published first history sheet css ∧ Selects first before uri p name ∧
      ∃ rule ∈ Stylesheet.rulesOf (Stylesheet.scan css), "." ++ name ∈ rule.selectors := by
  rw [Option.isSome_iff_exists]
  constructor
  · rintro ⟨d, hd⟩
    obtain ⟨sheet, css, name, rule, hp, hs, hl, -⟩ := (h d).1 hd
    exact ⟨sheet, css, name, hp, hs, (exists_lastListing_iff _ _).1 ⟨rule, hl⟩⟩
  · rintro ⟨sheet, css, name, hp, hs, hr⟩
    obtain ⟨rule, hl⟩ := (exists_lastListing_iff _ _).2 hr
    obtain ⟨i, -, ho⟩ := hp.2
    exact ⟨⟨i.uri, rule.span⟩,
      (h _).2 ⟨sheet, css, name, rule, hp, hs, hl, (Index.ofText_eq_ok ho).1, rfl⟩⟩

/-- A request has waited for the build: the settings made it wait, the build was going on when it
came in and was so until the last moment, which ended it. -/
structure HasWaited (first : Session) (before history : List Moment) (m : Moment) : Prop where
  settings : (past first before).settings.waitForIndex = true
  since : (past first before).build.state = .building
  still : (past first history).build.state = .building
  ended : (past first (history ++ [m])).build.state.isOver = true

/-- Every answer is for a request of the history, given at once or after waiting for the build. It is
a location exactly if an index is there and some rule of its stylesheet, of which there is but one,
lists the class that the request selects; the location is then that of the last such rule. -/
theorem answer_iff (hasClient : Bool) (fallback : Fallback) (root : Option Path) (history : List Moment)
    (m : Moment) (a : Answer)
    (ha : a ∈ ((past (.new hasClient fallback root) history).react history.length m).answers) :
    ∃ before asking later uri p,
      history ++ [m] = before ++ asking :: later ∧ before.length = a.number ∧ asking.input = .asked uri p ∧
      (later = [] ∨ HasWaited (.new hasClient fallback root) before history m) ∧
      (∀ sheet css sheet' css', Published (.new hasClient fallback root) (history ++ [m]) sheet css →
        Published (.new hasClient fallback root) (history ++ [m]) sheet' css' → sheet = sheet' ∧ css = css') ∧
      (a.declaration.isSome ↔ ∃ sheet css name,
        Published (.new hasClient fallback root) (history ++ [m]) sheet css ∧
        Selects (.new hasClient fallback root) before uri p name ∧
        ∃ rule ∈ Stylesheet.rulesOf (Stylesheet.scan css), "." ++ name ∈ rule.selectors) ∧
      ∀ d, a.declaration = some d ↔
        Declares (.new hasClient fallback root) before (history ++ [m]) uri p d := by
  have hf : (Session.new hasClient fallback root).documents = .empty := rfl
  have hb : (Session.new hasClient fallback root).build = .new := rfl
  have hafter := past_concat (.new hasClient fallback root) history m
  -- the answer is to the request just made, not served or served, or to one that has waited
  rcases mem_answers ha with ⟨uri, p, hm, ⟨hd, rfl⟩ | ⟨document, hd, rfl⟩⟩ | ⟨ho, q, hq, rfl⟩
  · have h : ∀ d, none = some d ↔ Declares (.new hasClient fallback root) history (history ++ [m]) uri p d :=
      fun d => ⟨nofun, fun ⟨_, _, name, _, _, hs, _⟩ => absurd hs (not_selects hf hd p name)⟩
    exact ⟨history, m, [], uri, p, rfl, rfl, hm, .inl rfl, fun _ _ _ _ => published_unique,
      isSome_of_eq_some_iff h, h⟩
  · rw [← hafter]
    have h := answer_eq_some_iff hf hb hd history.length p (history ++ [m])
    exact ⟨history, m, [], uri, p, rfl, rfl, hm, .inl rfl, fun _ _ _ _ => published_unique,
      isSome_of_eq_some_iff h, h⟩
  · obtain ⟨hs, before, asking, later, uri, document, hh, hn, hask, hd, ht, hset, hsince⟩ :=
      (sound_past hb history).waiting q hq
    obtain ⟨number, text, p⟩ := q
    dsimp only at hn hask ht
    subst ht
    rw [← hafter] at ho ⊢
    have h := answer_eq_some_iff hf hb hd number p (history ++ [m])
    exact ⟨before, asking, later ++ [m], uri, p, by simp [hh], hn, hask, .inr ⟨hset, hsince, hs, ho⟩,
      fun _ _ _ _ => published_unique, isSome_of_eq_some_iff h, h⟩

/-- The page of a small history. -/
def samplePage : Uri := ⟨['f'], none, .rooted [['p']], none, none⟩

/-- A session begins to work on the stylesheet `.a{}`, opens a page with the text `a`, and is asked
for the definition behind the `a` before the build has ended. -/
def sampleHistory : List Moment :=
  [⟨⟨[([[0x61]], .file ⟨#[0x2E, 0x61, 0x7B, 0x7D]⟩)], []⟩, .begin⟩,
    ⟨.empty [], .opened samplePage ⟨"html", "a"⟩⟩, ⟨.empty [], .asked samplePage ⟨0, 1⟩⟩]

/-- The whole of that stylesheet. -/
def sampleDeclaration : Declaration :=
  ⟨⟨['f', 'i', 'l', 'e'], some ⟨[], none, none⟩, .rooted [['a']], none, none⟩, ⟨⟨0, 0⟩, ⟨0, 4⟩⟩⟩

/-- When the build ends, the request that waited is answered with the place of the rule. -/
theorem answer_after_waiting :
    ⟨2, some sampleDeclaration⟩ ∈
        ((past (.new true (.file ⟨[0x2F, 0x61]⟩) none) sampleHistory).react 3 ⟨.empty [], .buildEnds⟩).answers ∧
      ∃ before uri p, before.length = 2 ∧ Declares (.new true (.file ⟨[0x2F, 0x61]⟩) none) before
        (sampleHistory ++ [⟨.empty [], .buildEnds⟩]) uri p sampleDeclaration := by
  have ha : (⟨2, some sampleDeclaration⟩ : Answer) ∈
      ((past (.new true (.file ⟨[0x2F, 0x61]⟩) none) sampleHistory).react 3 ⟨.empty [], .buildEnds⟩).answers := by
    decide +kernel
  obtain ⟨before, asking, later, uri, p, -, hn, -, -, -, -, hd⟩ :=
    answer_iff true (.file ⟨[0x2F, 0x61]⟩) none sampleHistory ⟨.empty [], .buildEnds⟩ _ ha
  exact ⟨ha, before, uri, p, hn, (hd _).1 rfl⟩

end ClassAtlas.Session
