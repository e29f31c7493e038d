/-
Choosing the stylesheet. The copy that the project has installed comes first, so that definitions
fit the version it uses; it only has to be there. Otherwise the fallback is used: a given file,
which is not looked at here, or the built-in text, which is written to the cache if the file there
is missing or differs. Where the cache is, is asked only then, and may not be known.
-/
import ClassAtlas.BuiltIn
import ClassAtlas.Event

namespace ClassAtlas

/-- What a step that works on files comes to: the files after it, its events, and its result. -/
structure Outcome (α : Type) where
  files : Files
  events : List Event
  result : α

/-- What is known of a user: the home directory, or why it could not be found, and the cache directory
that the user has chosen. -/
structure User where
  home : Except String Path
  chosenCache : Option Path

/-- The fallback: the built-in stylesheet, in a file of a user's cache, or a given file. -/
inductive Fallback
  | builtIn (user : User)
  | file (path : Path)

namespace Fallback

/-- The directory of this program in the cache of a user, who may have chosen a cache directory by
an absolute path. -/
def cacheDirectory (home : Path) (chosen : Option Path) : Path :=
  let base := match chosen with
    | some path => if path.isAbsolute then path else home.join (.ofString ".cache")
    | none => home.join (.ofString ".cache")
  base.join (.ofString "tachyons-lsp")

/-- The directory of this program in a user's cache. Without a home directory there is none, whatever
the user has chosen. -/
def directoryOf (user : User) : Except IndexError Path :=
  match user.home with
  | .error cause => .error (.noCacheDirectory cause)
  | .ok home => .ok (cacheDirectory home user.chosenCache)

/-- The file of the fallback, if it is known where that is. -/
def target : Fallback → Except IndexError Path
  | .file path => .ok path
  | .builtIn user => (directoryOf user).map (·.join (.ofString BuiltIn.fileName))

/-- The bytes of the built-in stylesheet. -/
def content : ByteArray :=
  BuiltIn.text.toUTF8

/-- Makes sure that a directory holds the built-in stylesheet; gives the path of its file. -/
def materialize (fs : Files) (directory : Path) : Outcome (Except IndexError Path) :=
  let path := directory.join (.ofString BuiltIn.fileName)
  match fs.readText path with
  | .ok text =>
    if text = BuiltIn.text then ⟨fs, [], .ok path⟩ else write path
  | .error _ => write path
where
  /-- Writes the file anew, in a directory that may have to be made. -/
  write (path : Path) : Outcome (Except IndexError Path) :=
    match fs.makeDirectories directory with
    | (made, .error e) => ⟨made, [], .error (.write path e)⟩
    | (made, .ok ()) =>
      match made.write path content with
      | .error e => ⟨made, [], .error (.write path e)⟩
      | .ok written => ⟨written, [.fallbackWritten path], .ok path⟩

/-- The path of the fallback. -/
def resolve (fs : Files) : Fallback → Outcome (Except IndexError Path)
  | .file path => ⟨fs, [], .ok path⟩
  | .builtIn user =>
    match directoryOf user with
    | .error e => ⟨fs, [], .error e⟩
    | .ok directory => materialize fs directory

section

variable {user : User} (fs : Files)

theorem directoryOf_eq_error_iff {e : IndexError} :
    directoryOf user = .error e ↔ ∃ cause, user.home = .error cause ∧ e = .noCacheDirectory cause := by
  unfold directoryOf
  cases user.home <;> simp [eq_comm]

theorem resolve_unplaced {e : IndexError} (h : directoryOf user = .error e) :
    resolve fs (.builtIn user) = ⟨fs, [], .error e⟩ := by
  simp only [resolve, h]

theorem resolve_placed {directory : Path} (h : directoryOf user = .ok directory) :
    resolve fs (.builtIn user) = materialize fs directory := by
  simp only [resolve, h]

end

end Fallback

namespace Sheet

/-- Where a project has its own copy of the stylesheet, from the root of its workspace. -/
def projectPath : Path :=
  .ofString "node_modules/tachyons/css/tachyons.css"

/-- Chooses the stylesheet for a workspace, if there is one. -/
def locate (fs : Files) (root : Option Path) (fallback : Fallback) :
    Outcome (Except IndexError Sheet) :=
  match root with
  | none => useFallback .noWorkspace []
  | some root =>
    let path := root.join projectPath
    match fs.stat path with
    | .ok _ => ⟨fs, [], .ok ⟨path, .project⟩⟩
    | .error e => useFallback .missing [.noProjectSheet path e]
where
  /-- Uses the fallback, after some events. -/
  useFallback (reason : FallbackReason) (before : List Event) :
      Outcome (Except IndexError Sheet) :=
    let found := fallback.resolve fs
    ⟨found.files, before ++ found.events, found.result.map fun path => ⟨path, .fallback reason⟩⟩

end Sheet

end ClassAtlas
