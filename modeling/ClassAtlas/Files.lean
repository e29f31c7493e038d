/-
A file system without links. It knows each file and directory by its location, the names on the
way to it from the root, and it has a working directory, from which relative paths start.

Paths are followed piece by piece: an empty piece or a dot stays, a double dot goes up, and any of
them needs a directory to stand in, so that `file/` is no file.

The system may refuse to have a place used: for want of permission, because the disk is full, or for
a name that is too long or that no name can be. Such a refusal belongs to the place and holds for
whatever is done there, with one reason. A place that may be read but not written is not told apart
from others, and neither is a refusal that sets in between two operations of one step.
-/
import ClassAtlas.Path

namespace ClassAtlas

namespace Files

/-- Why a file operation failed; anything that has no name of its own is told in the system's words. -/
inductive Error
  | notFound
  | exists
  | notDirectory
  | isDirectory
  | notText
  | other (text : String)
  deriving DecidableEq, Repr

/-- The system's text for a failure. -/
def Error.message : Error → String
  | .notFound => "No such file or directory (os error 2)"
  | .exists => "File exists (os error 17)"
  | .notDirectory => "Not a directory (os error 20)"
  | .isDirectory => "Is a directory (os error 21)"
  | .notText => "stream did not contain valid UTF-8"
  | .other text => text

/-- The names on the way from the root. -/
abbrev Location := List Path.Name

/-- What stands at a location: a file, a directory, or something that the system does not let be used,
with its reason. `seen` tells whether the system lets it be seen that something is there. -/
inductive Entry
  | file (content : ByteArray)
  | directory
  | refused (seen : Bool) (reason : String)

end Files

/-- The files and directories by location, and the location of the working directory. The root is
a directory without being listed. -/
structure Files where
  entries : List (Files.Location × Files.Entry)
  working : Files.Location

namespace Files

/-- A file system with no files, and nothing but the directories on the way to the working one. -/
def empty (working : Location) : Files :=
  ⟨(List.range working.length).map fun n => (working.take (n + 1), .directory), working⟩

/-! ## Locations -/

/-- What stands at a location. -/
def entry? (fs : Files) (loc : Location) : Option Entry :=
  if loc = [] then some .directory else fs.entries.lookup loc

/-- Puts an entry at a location, in place of what was there. -/
def put (fs : Files) (loc : Location) (e : Entry) : Files :=
  { fs with entries := (loc, e) :: fs.entries.filter (·.1 != loc) }

/-- Takes away a location and everything below it. -/
def erase (fs : Files) (loc : Location) : Files :=
  { fs with entries := fs.entries.filter fun e => !loc.isPrefixOf e.1 }

/-! ## Following paths -/

/-- Follows pieces of a path from a location. What the last piece names need not exist. -/
def walk (fs : Files) (loc : Location) : List Path.Name → Except Error Location
  | [] => .ok loc
  | n :: r =>
    match fs.entry? loc with
    | none => .error .notFound
    | some (.file _) => .error .notDirectory
    | some (.refused _ reason) => .error (.other reason)
    | some .directory =>
      if n = [] || n = Path.dot then fs.walk loc r
      else if n = Path.dotDot then fs.walk loc.dropLast r
      else fs.walk (loc ++ [n]) r

/-- The location from which a path starts. -/
def origin (fs : Files) (p : Path) : Location :=
  if p.isAbsolute then [] else fs.working

/-- The location that a path leads to. The empty path leads nowhere. -/
def resolve (fs : Files) (p : Path) : Except Error Location :=
  if p.bytes = [] then .error .notFound else fs.walk (fs.origin p) p.pieces

/-- What stands where a path leads. -/
def stat (fs : Files) (p : Path) : Except Error Entry := do
  match fs.entry? (← fs.resolve p) with
  | none => .error .notFound
  | some (.refused false reason) => .error (.other reason)
  | some e => .ok e

/-- Whether a path leads to a directory. -/
def isDirectory (fs : Files) (p : Path) : Bool :=
  match fs.stat p with
  | .ok .directory => true
  | _ => false

/-! ## Reading -/

/-- The bytes of a file. -/
def read (fs : Files) (p : Path) : Except Error ByteArray := do
  match ← fs.stat p with
  | .directory => .error .isDirectory
  | .refused _ reason => .error (.other reason)
  | .file content => .ok content

/-- The text of a file, which must be UTF-8. -/
def readText (fs : Files) (p : Path) : Except Error String := do
  match String.fromUTF8? (← fs.read p) with
  | none => .error .notText
  | some text => .ok text

/-! ## Writing -/

/-- Writes a file, in place of one that is there. -/
def write (fs : Files) (p : Path) (content : ByteArray) : Except Error Files := do
  let loc ← fs.resolve p
  match fs.entry? loc with
  | some .directory => .error .isDirectory
  | some (.refused _ reason) => .error (.other reason)
  | none | some (.file _) => .ok (fs.put loc (.file content))

/-- A list of pieces without the empty ones at its end. -/
def withoutTrailing (pieces : List Path.Name) : List Path.Name :=
  (pieces.reverse.dropWhile (· = [])).reverse

/-- Makes one directory. Slashes at the end of its path mean nothing. -/
def makeDirectory (fs : Files) (p : Path) : Except Error Files :=
  if p.bytes = [] then
    .error .notFound
  else do
    let loc ← fs.walk (fs.origin p) (withoutTrailing p.pieces)
    match fs.entry? loc with
    | none => .ok (fs.put loc .directory)
    | some (.refused _ reason) => .error (.other reason)
    | some _ => .error .exists

/-- Makes the first directory of a list, and before it, as far as they are missing, those after
it. What was made stays when a later step fails. -/
def makeNested (fs : Files) : List Path → Files × Except Error Unit
  | [] => (fs, .ok ())
  | p :: above =>
    match fs.makeDirectory p with
    | .ok made => (made, .ok ())
    | .error .notFound =>
      match fs.makeNested above with
      | (made, .error e) => (made, .error e)
      | (made, .ok ()) =>
        match made.makeDirectory p with
        | .ok made => (made, .ok ())
        | .error e => if made.isDirectory p then (made, .ok ()) else (made, .error e)
    | .error e => if fs.isDirectory p then (fs, .ok ()) else (fs, .error e)

/-- Makes a directory and those on the way to it; one that is there is left alone. -/
def makeDirectories (fs : Files) (p : Path) : Files × Except Error Unit :=
  if p.bytes = [] || p.bytes = [Path.slash] then (fs, .ok ()) else fs.makeNested (p :: p.above)

/-- Removes a file, or a directory with all it holds. -/
def remove (fs : Files) (p : Path) : Except Error Files := do
  let loc ← fs.resolve p
  match fs.entry? loc with
  | none => .error .notFound
  | some (.refused _ reason) => .error (.other reason)
  | some _ => .ok (fs.erase loc)

end Files

end ClassAtlas
