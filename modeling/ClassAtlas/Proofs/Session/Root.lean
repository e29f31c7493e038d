/-
The root of a session's workspace. A greeting names it by a URI, or else by that of its first folder;
the path that is taken is the one that the URI leads to, whatever its scheme (`root_of_greeting`). That
is the path of a file as long as the URI that is taken is one of a file, which is nowhere asked
(`root_of_other_scheme`). Without a root the session begins to work on the fallback.
-/
import ClassAtlas.Proofs.Session.Answers
import ClassAtlas.Proofs.Session.Choice
import ClassAtlas.Proofs.Uri.Local

namespace ClassAtlas

/-! ## What a greeting names -/

/-- A greeting takes a path from a URI, if that leads there: from the one that it gives for the root, or,
if there is none that leads anywhere, from the one of its first folder. -/
def Session.Greeting.Takes (leads : Uri → Path → Prop) (g : Session.Greeting) (u : Uri) (p : Path) : Prop :=
  leads u p ∧ (g.root = some u ∨ (∀ r, g.root = some r → ∀ q, ¬ leads r q) ∧ g.folders.head? = some u)

namespace Session

theorem rootPath_eq_some_iff (g : Greeting) (p : Path) :
    g.rootPath = some p ↔ ∃ u, g.Takes Uri.LeadsTo u p := by
  unfold Greeting.rootPath Greeting.Takes
  rw [Option.or_eq_some_iff, Option.bind_eq_none_iff]
  simp only [Option.bind_eq_some_iff, Uri.toPath?_eq_some_iff, Uri.toPath?_eq_none_iff]
  constructor
  · rintro (⟨u, hu, hp⟩ | ⟨hr, u, hu, hp⟩)
    · exact ⟨u, hp, .inl hu⟩
    · exact ⟨u, hp, .inr ⟨hr, hu⟩⟩
  · rintro ⟨u, hp, hu | ⟨hr, hu⟩⟩
    · exact .inl ⟨u, hu, hp⟩
    · exact .inr ⟨hr, u, hu, hp⟩

/-- If what is taken is taken from the URI of a file, it makes no difference to ask for one. -/
theorem takes_file_iff {g : Greeting} (hg : ∀ u p, g.Takes Uri.LeadsTo u p → u.scheme = Uri.fileScheme)
    (u : Uri) (p : Path) : g.Takes Uri.LeadsToFile u p ↔ g.Takes Uri.LeadsTo u p := by
  constructor
  · rintro ⟨⟨hs, hp⟩, hu | ⟨hr, hu⟩⟩
    · exact ⟨hp, .inl hu⟩
    · -- a root that leads anywhere would be taken, and so be a file
      exact ⟨hp, .inr ⟨fun r hroot q hq => hr r hroot q ⟨hg r q ⟨hq, .inl hroot⟩, hq⟩, hu⟩⟩
  · intro h
    have hs := hg u p h
    obtain ⟨hp, hu | ⟨hr, hu⟩⟩ := h
    · exact ⟨⟨hs, hp⟩, .inl hu⟩
    · exact ⟨⟨hs, hp⟩, .inr ⟨fun r hroot q hq => hr r hroot q hq.2, hu⟩⟩

/-! ## Beginning without a root -/

/-- A session begins to work on the fallback for want of a workspace: what it comes to is told by the
fallback alone, and the stylesheet that is built is said to be the fallback for that reason. -/
structure BeginsOnFallback (s : Session) (fs : Files) : Prop where
  files : (s.begin fs).files = (s.fallback.resolve fs).files
  unresolved : ∀ e, (s.fallback.resolve fs).result = .error e → (s.begin fs).session.build.state = .failed e
  unread : ∀ path cause, (s.fallback.resolve fs).result = .ok path →
    (s.fallback.resolve fs).files.readText path = .error cause →
    (s.begin fs).session.build.state = .failed (.read path cause)
  read : ∀ path css, (s.fallback.resolve fs).result = .ok path →
    (s.fallback.resolve fs).files.readText path = .ok css →
    (s.begin fs).session.build.state = .building ∧
      (s.begin fs).session.build.job = some (⟨path, .fallback .noWorkspace⟩, css) ∧
      Event.indexing ⟨path, .fallback .noWorkspace⟩ ∈ (s.begin fs).events

theorem begin_files (s : Session) (fs : Files) :
    (s.begin fs).files = (Sheet.locate fs s.root s.fallback).files := by
  unfold begin
  dsimp only
  split <;> rfl

theorem beginsOnFallback {s : Session} (hr : s.root = none) (hs : s.build.state = .unstarted) (fs : Files) :
    BeginsOnFallback s fs := by
  have hlocate := locate_noWorkspace fs s.fallback
  have hfail : ∀ e, (s.choose fs).result = .error e → (s.begin fs).session.build.state = .failed e := by
    intro e he
    rw [(begin_error he).1, Build.fail_open _ (by rw [hs]; rfl)]
  refine ⟨?_, ?_, ?_, ?_⟩
  · rw [begin_files, hr, hlocate]
  · intro e he
    refine hfail e ((choose_error_iff s fs e).2 (.inl ?_))
    rw [hr, hlocate, he]
    rfl
  · intro path cause hp hc
    refine hfail _ ((choose_error_iff s fs _).2 (.inr ⟨⟨path, .fallback .noWorkspace⟩, cause, ?_⟩))
    rw [hr, hlocate, hp]
    exact ⟨rfl, hc, rfl⟩
  · intro path css hp hc
    have hchosen : (s.choose fs).result = .ok (⟨path, .fallback .noWorkspace⟩, css) := by
      rw [choose_ok_iff, hr, hlocate, hp]
      exact ⟨rfl, hc⟩
    obtain ⟨hbuild, hevent, -⟩ := begin_ok hchosen
    rw [hbuild, Build.spawn_unstarted _ hs]
    exact ⟨rfl, rfl, hevent⟩

/-- An index that is ever there in a session that began to work without a root is that of the fallback. -/
theorem provenance_of_ready {first : Session} (hf : first.build = .new) {before later : List Moment} {m : Moment}
    (hm : m.input = .begin) (hn : ∀ n ∈ before, n.input ≠ .begin) (hr : (past first before).root = none)
    {i : Index} (hi : (past first (before ++ m :: later)).build.state = .ready i) :
    i.sheet.provenance = .fallback .noWorkspace := by
  obtain ⟨sheet, css, ⟨before', m', later', he, hm', hn', hc⟩, ho⟩ :=
    (sound_past hf (before ++ m :: later)).ready i hi
  obtain ⟨rfl, rfl⟩ := first_begin_unique hm hn hm' hn' he
  have hsheet := ((choose_ok_iff _ _ _ _).1 hc).1
  rw [(Index.ofText_eq_ok ho).2.1]
  rw [hr, locate_noWorkspace] at hsheet
  cases hp : ((past first before).fallback.resolve m.files).result with
  | error e => rw [hp] at hsheet; cases hsheet
  | ok path => rw [hp] at hsheet; cases hsheet; rfl

/-! ## The root after a greeting -/

theorem past_cons_greet (first : Session) (fs : Files) (g : Greeting) (between : List Moment) :
    past first (⟨fs, .greet g⟩ :: between) = (first.greet g).1.after 1 between := rfl

/-- After the first greeting of a session, until it begins to work, its root is the path that the
greeting takes. As long as that is taken from the URI of a file, it is the path that a greeting takes
from URIs of files alone. If nothing is taken, the session begins to work on the fallback, and an index
that it ever has is that of the fallback. -/
theorem root_of_greeting (hasClient : Bool) (fallback : Fallback) (fs : Files) (g : Greeting)
    (between : List Moment) (hb : ∀ m ∈ between, (∀ g', m.input ≠ .greet g') ∧ m.input ≠ .begin) :
    (∀ p, (past (.new hasClient fallback none) (⟨fs, .greet g⟩ :: between)).root = some p ↔
      ∃ u, g.Takes Uri.LeadsTo u p) ∧
    ((∀ u p, g.Takes Uri.LeadsTo u p → u.scheme = Uri.fileScheme) →
      ∀ p, (past (.new hasClient fallback none) (⟨fs, .greet g⟩ :: between)).root = some p ↔
        ∃ u, g.Takes Uri.LeadsToFile u p) ∧
    ((past (.new hasClient fallback none) (⟨fs, .greet g⟩ :: between)).root = none → ∀ now,
      BeginsOnFallback (past (.new hasClient fallback none) (⟨fs, .greet g⟩ :: between)) now ∧
      ∀ later i,
        (past (.new hasClient fallback none)
          (⟨fs, .greet g⟩ :: between ++ ⟨now, .begin⟩ :: later)).build.state = .ready i →
        i.sheet.provenance = .fallback .noWorkspace) := by
  have hnew : (Session.new hasClient fallback none).build = .new := rfl
  have hroot : (past (.new hasClient fallback none) (⟨fs, .greet g⟩ :: between)).root = g.rootPath := by
    rw [past_cons_greet, (kept_after _ 1 fun m hm => (hb m hm).1).root, greet_session]
    exact Option.or_none
  have htaken : ∀ p, (past (.new hasClient fallback none) (⟨fs, .greet g⟩ :: between)).root = some p ↔
      ∃ u, g.Takes Uri.LeadsTo u p := by
    intro p
    rw [hroot, rootPath_eq_some_iff]
  have hquiet : ∀ m ∈ ⟨fs, .greet g⟩ :: between, m.input ≠ .begin := by
    intro m hm
    rcases List.mem_cons.1 hm with rfl | hm
    · nofun
    · exact (hb m hm).2
  refine ⟨htaken, fun hg p => ?_, fun hr now => ⟨?_, fun later i hi => ?_⟩⟩
  · rw [htaken]
    simp only [takes_file_iff hg]
  · exact beginsOnFallback hr ((sound_past hnew _).started.2 hquiet) now
  · exact provenance_of_ready hnew rfl hquiet hr hi

/-- A folder of files, `file:///w%20s`. -/
def sampleFolder : Uri :=
  ⟨Uri.fileScheme, some ⟨[], none, none⟩, .rooted [['w', '%', '2', '0', 's']], none, none⟩

/-- A greeting whose root is `untitled:x`, which leads nowhere, and whose first folder is one of files. -/
def sampleGreeting : Greeting :=
  ⟨some ⟨"untitled".toList, none, .rootless ['x'], none, none⟩, [sampleFolder], none⟩

/-- The root is then the path of the folder, also after a document was opened. -/
theorem root_of_first_folder :
    (∀ m ∈ [(⟨.empty [], .opened sampleFolder ⟨"html", ""⟩⟩ : Moment)],
      (∀ g', m.input ≠ .greet g') ∧ m.input ≠ .begin) ∧
    ∃ u, sampleGreeting.Takes Uri.LeadsToFile u ⟨[0x2F, 0x77, 0x20, 0x73]⟩ := by
  have hquiet : ∀ m ∈ [(⟨.empty [], .opened sampleFolder ⟨"html", ""⟩⟩ : Moment)],
      (∀ g', m.input ≠ .greet g') ∧ m.input ≠ .begin := by
    simp
  refine ⟨hquiet, ?_⟩
  have hfile : ∀ u p, sampleGreeting.Takes Uri.LeadsTo u p → u.scheme = Uri.fileScheme := by
    rintro u p ⟨⟨segments, -, hroute, -⟩, hu | ⟨-, hu⟩⟩
    · cases hu; cases hroute
    · cases hu; rfl
  have hroot := (root_of_greeting true (.file ⟨[0x2F, 0x61]⟩) (.empty []) sampleGreeting _ hquiet).2.1 hfile
  exact (hroot _).1 (by decide +kernel)

/-- A greeting whose root is `vfs:/ws`, which is no URI of a file. -/
def sampleElsewhere : Greeting :=
  ⟨some ⟨"vfs".toList, none, .rooted [['w', 's']], none, none⟩, [], none⟩

/-- A path is taken from it all the same. -/
theorem root_of_other_scheme :
    (past (.new true (.file ⟨[0x2F, 0x61]⟩) none) [⟨.empty [], .greet sampleElsewhere⟩]).root =
        some ⟨[0x2F, 0x77, 0x73]⟩ ∧
      ¬ ∃ u p, sampleElsewhere.Takes Uri.LeadsToFile u p := by
  refine ⟨by decide +kernel, ?_⟩
  rintro ⟨u, p, ⟨hs, -⟩, hu | ⟨-, hu⟩⟩
  · cases hu; exact absurd hs (by decide)
  · cases hu

end Session

end ClassAtlas
