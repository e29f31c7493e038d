/-
The copy of the built-in stylesheet in a directory. Making sure of it leaves the copy as it should be, whatever was
there, and every other file as it was; doing so again, after any number of such steps, changes nothing. It fails where a
file stands on the way or a directory in place of the copy, or where the system refuses either place, and then nothing
that was there has changed (`sureOf_after`).
-/
import ClassAtlas.Locate
import ClassAtlas.Proofs.Files.Nested

namespace ClassAtlas.Fallback

/-! ## Where the copy is -/

/-- The file for the copy in a directory, named by the version of this program. -/
def copyIn (directory : Path) : Path :=
  directory.join (.ofString ("tachyons-" ++ BuiltIn.version ++ ".css"))

/-- The name of the copy. -/
def copyName : Path.Name :=
  (Path.ofString BuiltIn.fileName).bytes

/-- The location of the copy, if nothing is in the way. -/
def copyAt (fs : Files) (directory : Path) : Files.Location :=
  Files.goal (fs.origin directory) directory.components ++ [copyName]

theorem isComponent_copyName : Path.IsComponent copyName :=
  ⟨by decide, by decide, by decide⟩

theorem copyAt_of_working {fs made : Files} (h : made.working = fs.working) (directory : Path) :
    copyAt made directory = copyAt fs directory := by
  unfold copyAt Files.origin
  rw [h]

theorem resolve_copyIn {fs : Files} {directory : Path} {v : Files.Location} :
    fs.resolve (copyIn directory) = .ok v ↔
      (∀ u ∈ fs.way directory, fs.entry? u = some .directory) ∧ v = copyAt fs directory := by
  rw [copyAt, ← Files.follow_of_isComponent isComponent_copyName (by decide)]
  exact Files.resolve_join_eq_ok_iff isComponent_copyName

/-! ## What it comes to -/

/-- Making sure of the copy: it is there as it should be, or it is written, if the directory can be made and the file be
written. -/
inductive Materializes (fs : Files) (directory : Path) : Outcome (Except IndexError Path) → Prop
  | kept (h : fs.read (copyIn directory) = .ok content) :
    Materializes fs directory ⟨fs, [], .ok (copyIn directory)⟩
  | unmade {made : Files} {cause : Files.Error} (h : fs.read (copyIn directory) ≠ .ok content)
      (hmade : fs.makeDirectories directory = (made, .error cause)) :
    Materializes fs directory ⟨made, [], .error (.write (copyIn directory) cause)⟩
  | unwritten {made : Files} {cause : Files.Error} (h : fs.read (copyIn directory) ≠ .ok content)
      (hmade : fs.makeDirectories directory = (made, .ok ()))
      (hwrite : made.write (copyIn directory) content = .error cause) :
    Materializes fs directory ⟨made, [], .error (.write (copyIn directory) cause)⟩
  | written {made written : Files} (h : fs.read (copyIn directory) ≠ .ok content)
      (hmade : fs.makeDirectories directory = (made, .ok ()))
      (hwrite : made.write (copyIn directory) content = .ok written) :
    Materializes fs directory ⟨written, [.fallbackWritten (copyIn directory)], .ok (copyIn directory)⟩

theorem materializes_write {fs : Files} {directory : Path} (h : fs.read (copyIn directory) ≠ .ok content) :
    Materializes fs directory (materialize.write fs directory (copyIn directory)) := by
  unfold materialize.write
  split
  · next made cause hmade => exact .unmade h hmade
  · next made hmade =>
    split
    · next cause hwrite => exact .unwritten h hmade hwrite
    · next written hwrite => exact .written h hmade hwrite

theorem materializes (fs : Files) (directory : Path) : Materializes fs directory (materialize fs directory) := by
  unfold materialize
  dsimp only
  split
  · next text htext =>
    rw [Files.readText_eq_ok_iff] at htext
    split
    · next heq =>
      rw [heq] at htext
      exact .kept htext
    · next hne =>
      refine materializes_write fun h => hne ?_
      exact String.toByteArray_inj.1 (Except.ok.inj (htext.symm.trans h))
  · next e he =>
    refine materializes_write fun h => ?_
    cases he.symm.trans (Files.readText_eq_ok_iff.2 h)

section Materializes

variable {fs : Files} {directory : Path} {o : Outcome (Except IndexError Path)} (h : Materializes fs directory o)
include h

/-- All that happens is that directories are made on the way, and then the copy is written. -/
theorem Materializes.exists_made : ∃ made, Files.Extends (· ∈ fs.way directory) fs made ∧
    (o.files = made ∨ (∃ path, o.result = .ok path) ∧ made.write (copyIn directory) content = .ok o.files) := by
  have hmade := Files.extends_makeDirectories fs directory
  cases h with
  | kept h => exact ⟨fs, .refl _ fs, .inl rfl⟩
  | unmade h hm =>
    rw [hm] at hmade
    exact ⟨_, hmade, .inl rfl⟩
  | unwritten h hm hw =>
    rw [hm] at hmade
    exact ⟨_, hmade, .inl rfl⟩
  | written h hm hw =>
    rw [hm] at hmade
    exact ⟨_, hmade, .inr ⟨⟨_, rfl⟩, hw⟩⟩

/-- What was there stays as it was, but for the copy. -/
theorem Materializes.kept_entry {loc : Files.Location} {e : Files.Entry} (he : fs.entry? loc = some e)
    (hloc : ∀ path, o.result = .ok path → loc ≠ copyAt fs directory) : o.files.entry? loc = some e := by
  obtain ⟨made, hmade, hfiles | ⟨⟨path, hok⟩, hwrite⟩⟩ := h.exists_made
  · rw [hfiles]
    exact hmade.kept loc e he
  · rw [Files.entry?_write hwrite, hmade.kept loc e he]
    intro hcopy
    rw [(resolve_copyIn.1 hcopy).2, copyAt_of_working hmade.working] at hloc
    exact hloc path hok rfl

theorem Materializes.kept_file {q : Path} {bytes : ByteArray} (hq : fs.read q = .ok bytes)
    (hne : ∀ path, o.result = .ok path → fs.resolve q ≠ .ok (copyAt fs directory)) : o.files.read q = .ok bytes := by
  obtain ⟨loc, hloc, he⟩ := Files.read_eq_ok_iff.1 hq
  have hentry : o.files.entry? loc = some (.file bytes) :=
    h.kept_entry he fun path hok heq => hne path hok (heq ▸ hloc)
  refine Files.read_eq_ok_iff.2 ⟨loc, ?_, hentry⟩
  obtain ⟨made, hmade, hfiles | ⟨-, hwrite⟩⟩ := h.exists_made
  · rw [hfiles]
    exact hmade.resolve hloc
  · exact Files.resolve_write hwrite (hmade.resolve hloc)

/-- What is new are directories on the way, and the copy. -/
theorem Materializes.added {loc : Files.Location} {e : Files.Entry} (he : o.files.entry? loc = some e) :
    fs.entry? loc = some e ∨ e = .directory ∧ loc ∈ fs.way directory ∨
      (∃ path, o.result = .ok path) ∧ loc = copyAt fs directory := by
  obtain ⟨made, hmade, hfiles | ⟨hok, hwrite⟩⟩ := h.exists_made
  · rw [hfiles] at he
    exact (hmade.added loc e he).imp_right .inl
  · by_cases hcopy : made.resolve (copyIn directory) = .ok loc
    · rw [(resolve_copyIn.1 hcopy).2, copyAt_of_working hmade.working]
      exact .inr (.inr ⟨hok, rfl⟩)
    · rw [Files.entry?_write hwrite hcopy] at he
      exact (hmade.added loc e he).imp_right .inl

/-- A file that is as the copy should be stays so. -/
theorem Materializes.kept_copy {q : Path} (hq : fs.read q = .ok content) : o.files.read q = .ok content := by
  obtain ⟨made, hmade, hfiles | ⟨-, hwrite⟩⟩ := h.exists_made
  · rw [hfiles]
    exact hmade.read hq
  · exact Files.read_write_same hwrite (hmade.read hq)

/-- Making sure of the copy comes to a copy that is as it should be. -/
theorem Materializes.read_copy {path : Path} (hpath : o.result = .ok path) : o.files.read path = .ok content := by
  cases h with
  | kept h => cases hpath; exact h
  | unmade h hm => cases hpath
  | unwritten h hm hw => cases hpath
  | written h hm hw => cases hpath; exact Files.read_write hw

/-- The copy is left as it was, or it is written and told of. -/
theorem Materializes.events {path : Path} (hpath : o.result = .ok path) :
    path = copyIn directory ∧ (fs.read path = .ok content ∧ o.events = [] ∧ o.files = fs ∨
      fs.read path ≠ .ok content ∧ o.events = [.fallbackWritten path]) := by
  cases h with
  | kept h => cases hpath; exact ⟨rfl, .inl ⟨h, rfl, rfl⟩⟩
  | unmade h hm => cases hpath
  | unwritten h hm hw => cases hpath
  | written h hm hw => cases hpath; exact ⟨rfl, .inr ⟨h, rfl⟩⟩

/-- If it comes to a copy, its place is reached once directories are made, and is that of a file. -/
theorem Materializes.reached {path : Path} (hpath : o.result = .ok path) :
    ∃ made loc, Files.Extends (· ∈ fs.way directory) fs made ∧ made.resolve path = .ok loc ∧ made.Writable loc := by
  have hmade := Files.extends_makeDirectories fs directory
  cases h with
  | kept h =>
    cases hpath
    obtain ⟨loc, hloc, he⟩ := Files.read_eq_ok_iff.1 h
    refine ⟨fs, loc, .refl _ fs, hloc, fun e hfile => ⟨content, ?_⟩⟩
    exact Option.some.inj (hfile.symm.trans he)
  | unmade h hm => cases hpath
  | unwritten h hm hw => cases hpath
  | written h hm hw =>
    cases hpath
    rw [hm] at hmade
    obtain ⟨loc, hloc, hfile, -⟩ := Files.write_eq_ok_iff.1 hw
    exact ⟨_, loc, hmade, hloc, hfile⟩

/-- Where the copy cannot be read for any other reason than that it is not found, it is not made. -/
theorem Materializes.notFound {path : Path} (hpath : o.result = .ok path) {cause : Files.Error}
    (hcause : fs.read path = .error cause) : cause = .notFound := by
  obtain ⟨made, loc, hmade, hloc, hfile⟩ := h.reached hpath
  exact hmade.read_error hloc hfile hcause

end Materializes

/-- Nothing stands in the way of the copy: where a directory has to be there is a directory or nothing, and in place of
the copy a file or nothing. -/
structure Makeable (fs : Files) (directory : Path) : Prop where
  way : fs.Unblocked directory
  free : fs.Writable (copyAt fs directory)
  /-- The way to the directory does not lead through what would be the copy. -/
  apart : copyAt fs directory ∉ fs.way directory

theorem Materializes.makeable {fs : Files} {directory path : Path} {o : Outcome (Except IndexError Path)}
    (h : Materializes fs directory o) (hpath : o.result = .ok path) : Makeable fs directory := by
  obtain ⟨made, loc, hmade, hloc, hfile⟩ := h.reached hpath
  rw [(h.events hpath).1, resolve_copyIn, Files.way_of_working hmade.working, copyAt_of_working hmade.working] at hloc
  obtain ⟨hway, rfl⟩ := hloc
  refine ⟨fun u hu e he => ?_, fun e he => hfile e (hmade.kept _ _ he), fun hon => hfile.ne_directory (hway _ hon)⟩
  have hkept := hmade.kept u e he
  rw [hway u hu] at hkept
  exact (Option.some.inj hkept).symm

theorem Materializes.succeeds {fs : Files} {directory : Path} {o : Outcome (Except IndexError Path)}
    (h : Materializes fs directory o) (hstart : fs.entry? (fs.origin directory) = some .directory)
    (hdot : fs.DotThere directory) (hmakeable : Makeable fs directory) : ∃ path, o.result = .ok path := by
  obtain ⟨made, hmade, hway⟩ := Files.makeDirectories_of_unblocked hstart hdot hmakeable.way
  have hextends := Files.extends_makeDirectories fs directory
  rw [hmade] at hextends
  have hfree : made.Writable (copyAt fs directory) := fun e he =>
    (hextends.added _ e he).elim (hmakeable.free e) fun hnew => absurd hnew.2 hmakeable.apart
  have hresolve : made.resolve (copyIn directory) = .ok (copyAt fs directory) := by
    rw [resolve_copyIn, Files.way_of_working hextends.working, copyAt_of_working hextends.working]
    exact ⟨hway, rfl⟩
  cases h with
  | kept h => exact ⟨_, rfl⟩
  | unmade h hm =>
    rw [hmade] at hm
    cases hm
  | unwritten h hm hw =>
    rw [hmade] at hm
    cases hm
    rw [Files.write_eq_ok_iff.2 ⟨_, hresolve, hfree, rfl⟩] at hw
    cases hw
  | written h hm hw => exact ⟨_, rfl⟩

/-- A copy that is as it should be is left alone. -/
theorem materialize_of_read {fs : Files} {directory : Path} (h : fs.read (copyIn directory) = .ok content) :
    materialize fs directory = ⟨fs, [], .ok (copyIn directory)⟩ := by
  have hm := materializes fs directory
  generalize materialize fs directory = o at hm
  cases hm with
  | kept _ => rfl
  | unmade hne => exact absurd h hne
  | unwritten hne => exact absurd h hne
  | written hne => exact absurd h hne

/-! ## Step by step -/

/-- Something that happens to files: a copy is made sure of, a file is written, or something is removed. -/
inductive Step
  | materialize (directory : Path)
  | write (path : Path) (bytes : ByteArray)
  | remove (path : Path)

/-- The files after a step; what cannot be written or removed changes nothing. -/
def Step.after (fs : Files) : Step → Files
  | .materialize directory => (Fallback.materialize fs directory).files
  | .write path bytes => (fs.write path bytes).toOption.getD fs
  | .remove path => (fs.remove path).toOption.getD fs

/-- The files after some steps. -/
def after (fs : Files) (steps : List Step) : Files :=
  steps.foldl Step.after fs

theorem read_after_materialize {fs : Files} {q : Path} (h : fs.read q = .ok content) (directories : List Path) :
    (after fs (directories.map .materialize)).read q = .ok content := by
  induction directories generalizing fs with
  | nil => exact h
  | cons d ds ih => exact ih ((materializes fs d).kept_copy h)

/-- The copy is as it should be, and nothing else has changed. -/
structure Copied (fs : Files) (directory path : Path) (o : Outcome (Except IndexError Path)) : Prop where
  path_eq : path = copyIn directory
  makeable : Makeable fs directory
  holds : o.files.read path = .ok content
  entries : ∀ loc e, fs.entry? loc = some e → loc ≠ copyAt fs directory → o.files.entry? loc = some e
  others : ∀ q bytes, fs.read q = .ok bytes → fs.resolve q ≠ .ok (copyAt fs directory) → o.files.read q = .ok bytes
  added : ∀ loc e, o.files.entry? loc = some e →
    fs.entry? loc = some e ∨ e = .directory ∧ loc ∈ fs.way directory ∨ loc = copyAt fs directory
  /-- A file that is written is told of, and nothing else is. -/
  events : o.events = [] ∧ o.files = fs ∨ o.events = [.fallbackWritten path]
  written_iff : o.events = [.fallbackWritten path] ↔
    fs.read path = .error .notFound ∨ ∃ bytes, fs.read path = .ok bytes ∧ bytes ≠ content
  /-- To do it again changes nothing, at once or after having done it in other directories. -/
  again : ∀ directories : List Path, materialize (after o.files (directories.map .materialize)) directory =
    ⟨after o.files (directories.map .materialize), [], .ok path⟩

/-- The copy could not be made, and nothing has changed that was there. -/
structure Refused (fs : Files) (directory : Path) (e : IndexError) (o : Outcome (Except IndexError Path)) : Prop where
  names : ∃ cause, e = .write (copyIn directory) cause ∧ e.message =
    "could not write bundled stylesheet to " ++ (copyIn directory).display ++ ": " ++ cause.message
  quiet : o.events = []
  entries : ∀ loc e, fs.entry? loc = some e → o.files.entry? loc = some e
  others : ∀ q bytes, fs.read q = .ok bytes → o.files.read q = .ok bytes
  added : ∀ loc e, o.files.entry? loc = some e → fs.entry? loc = some e ∨ e = .directory ∧ loc ∈ fs.way directory

/-- What it comes to, to make sure of the copy in a directory. Of what the system may refuse, only that is covered which
it refuses for a place as a whole, whatever is done there: files know of no place that can be read but not written, and
of no refusal that sets in between making the directories and writing the copy. -/
structure SureOf (fs : Files) (directory : Path) (o : Outcome (Except IndexError Path)) : Prop where
  ok : ∀ path, o.result = .ok path → Copied fs directory path o
  error : ∀ e, o.result = .error e → Refused fs directory e o
  /-- It fails if something stands in the way, and only then, unless paths lead nowhere from the working directory or
  the directory is to be made by a path that ends in a dot. -/
  fails_iff : fs.entry? (fs.origin directory) = some .directory → fs.DotThere directory →
    ((∃ e, o.result = .error e) ↔ ¬ Makeable fs directory)

theorem Materializes.copied {fs : Files} {directory path : Path} {o : Outcome (Except IndexError Path)}
    (h : Materializes fs directory o) (hpath : o.result = .ok path) : Copied fs directory path o := by
  obtain ⟨rfl, hevents⟩ := h.events hpath
  have hchanged : fs.read (copyIn directory) ≠ .ok content ↔ fs.read (copyIn directory) = .error .notFound ∨
      ∃ bytes, fs.read (copyIn directory) = .ok bytes ∧ bytes ≠ content := by
    cases hold : fs.read (copyIn directory) with
    | ok bytes => simp
    | error cause => simp [h.notFound hpath hold]
  refine {
    path_eq := rfl
    makeable := h.makeable hpath
    holds := h.read_copy hpath
    entries := fun loc e he hloc => h.kept_entry he fun _ _ => hloc
    others := fun q bytes hq hne => h.kept_file hq fun _ _ => hne
    added := fun loc e he => (h.added he).imp_right (.imp_right And.right)
    events := hevents.imp And.right And.right
    written_iff := ?_
    again := fun directories => materialize_of_read (read_after_materialize (h.read_copy hpath) directories) }
  rw [← hchanged]
  rcases hevents with ⟨hold, hquiet, -⟩ | ⟨hold, htold⟩
  · simp [hold, hquiet]
  · simp [hold, htold]

theorem Materializes.refused {fs : Files} {directory : Path} {e : IndexError} {o : Outcome (Except IndexError Path)}
    (h : Materializes fs directory o) (he : o.result = .error e) : Refused fs directory e o := by
  have hno : ∀ path, o.result ≠ .ok path := by
    intro path hpath
    rw [he] at hpath
    cases hpath
  have hnames : o.events = [] ∧ ∃ cause, e = .write (copyIn directory) cause := by
    cases h with
    | kept h => cases he
    | unmade h hm => cases he; exact ⟨rfl, _, rfl⟩
    | unwritten h hm hw => cases he; exact ⟨rfl, _, rfl⟩
    | written h hm hw => cases he
  obtain ⟨hquiet, cause, rfl⟩ := hnames
  exact {
    names := ⟨cause, rfl, rfl⟩
    quiet := hquiet
    entries := fun loc entry hentry => h.kept_entry hentry fun path hpath => absurd hpath (hno path)
    others := fun q bytes hq => h.kept_file hq fun path hpath => absurd hpath (hno path)
    added := fun loc entry hentry => (h.added hentry).imp_right fun hnew =>
      hnew.resolve_right fun hok => hok.1.elim fun path hpath => hno path hpath }

theorem sureOf_after (fs : Files) (steps : List Step) (directory : Path) :
    SureOf (after fs steps) directory (materialize (after fs steps) directory) := by
  have h := materializes (after fs steps) directory
  refine ⟨fun path hpath => h.copied hpath, fun e he => h.refused he, fun hstart hdot => ⟨?_, fun hblocked => ?_⟩⟩
  · rintro ⟨e, he⟩ hmakeable
    obtain ⟨path, hpath⟩ := h.succeeds hstart hdot hmakeable
    rw [he] at hpath
    cases hpath
  · cases hresult : (materialize (after fs steps) directory).result with
    | ok path => exact absurd (h.makeable hresult) hblocked
    | error e => exact ⟨e, rfl⟩

end ClassAtlas.Fallback
