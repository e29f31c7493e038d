/-
The program: reads its command line, then talks with an editor over standard input and output until
the input ends or the editor says so. Everything is decided elsewhere; here files are looked up,
bytes are read and written, and events that matter go to the standard error.

Steps work on a value that stands for the file system. Before a message is taken, the paths that
it may need are looked up and put into that value, with what the system refuses and why; what a step
has written is written out after it. If the system refuses that, the step is taken again, with what
is known by then, before anything of it is told or sent.
-/
import ClassAtlas.CommandLine
import ClassAtlas.Protocol.Frame
import ClassAtlas.Protocol.Server

namespace ClassAtlas.Program

open ClassAtlas.Protocol

/-! ## Files -/

/-- The system's words for a refusal. -/
def reasonOf : IO.Error → String
  | .alreadyExists _ _ text | .invalidArgument _ _ text | .permissionDenied _ _ text
  | .resourceExhausted _ _ text | .inappropriateType _ _ text | .noSuchThing _ _ text
  | .noFileOrDirectory _ _ text | .otherError _ text | .hardwareFault _ text
  | .resourceBusy _ text | .unsupportedOperation _ text => text
  | e => e.toString

/-- Looks up what stands at a location, and puts it into the known files. Only what the system does
not find is taken for missing. -/
def lookUp (known : Files) (location : Files.Location) : IO Files := do
  let path := (← IO.currentDir) / (Path.ofComponents true location).display
  match ← path.metadata.toBaseIO with
  | .error (.noFileOrDirectory _ _ _) => return known
  | .error e => return known.put location (.refused false (reasonOf e))
  | .ok seen =>
    if seen.type == .dir then
      return known.put location .directory
    match ← (IO.FS.readBinFile path).toBaseIO with
    | .ok content => return known.put location (.file content)
    | .error e => return known.put location (.refused true (reasonOf e))

/-- Looks up a path and everything on the way to it. -/
def lookUpPath (known : Files) (p : Path) : IO Files := do
  let mut known := known
  let mut location := known.origin p
  for name in p.components do
    location := if name = Path.dotDot then location.dropLast else location ++ [name]
    known ← lookUp known location
  return known

/-- Writes out what a step has changed, up to a location that the system refuses; gives that location
and the reason. -/
def writeOut (before after : Files) : IO (Option (Files.Location × String)) := do
  for (location, entry) in after.entries.reverse do
    let path := (Path.ofComponents true location).display
    let writing : IO Unit := do
      match before.entry? location, entry with
      | some .directory, _ | _, .refused _ _ => pure ()
      | _, .directory => IO.FS.createDirAll path
      | some (.file old), .file content => if old != content then IO.FS.writeBinFile path content
      | _, .file content => IO.FS.writeBinFile path content
    if let .error e ← writing.toBaseIO then
      return some (location, reasonOf e)
  return none

/-! ## Messages -/

/-- Reads the header of a frame; none at the end of the input. The length is none if the header
does not give it. -/
partial def readHeader (input : IO.FS.Stream) (length : Option Nat) :
    IO (Option (Option Nat)) := do
  let line ← input.getLine
  if line.isEmpty then return none
  if Frame.isHeaderEnd line then return some length
  readHeader input ((Frame.lengthOf? line).or length)

/-- Reads bytes until there are enough or the input ends. -/
partial def readBytes (input : IO.FS.Stream) (wanted : Nat) (got : ByteArray) : IO ByteArray := do
  if wanted ≤ got.size then return got
  let more ← input.read (wanted - got.size).toUSize
  if more.isEmpty then return got
  readBytes input wanted (got ++ more)

/-- Tells events that matter. -/
def tell (events : List Event) : IO Unit := do
  for e in events do
    if e.level = .info || e.level = .warn then
      IO.eprintln (e.level.name ++ " " ++ e.text)

/-- Sends messages. -/
def send (output : IO.FS.Stream) (messages : List Json) : IO Unit := do
  for m in messages do
    output.write (Frame.write m).toUTF8
  output.flush

/-- Takes the bytes of one message. -/
def exchange (output : IO.FS.Stream) (working : Files.Location) (s : Server) (body : ByteArray) :
    IO Server := do
  let mut known := Files.empty working
  for p in s.session.pathsInUse do
    known ← lookUpPath known p
  let step (known : Files) := match Frame.read? body with
    | none => s.hangUp known .garbled
    | some message => s.receive known message
  let first := step known
  let e := match ← writeOut known first.files with
    | none => first
    | some (location, reason) => step (known.put location (.refused true reason))
  tell e.events
  send output e.sent
  return e.server

/-- Takes messages until the input or the talk ends. A message without a length is an empty one. -/
partial def talk (input output : IO.FS.Stream) (working : Files.Location) (s : Server) :
    IO Unit := do
  if s.phase = .ended then return
  match ← readHeader input none with
  | none => return
  | some length =>
    let body ← readBytes input (length.getD 0) .empty
    talk input output working (← exchange output working s body)

/-- What the environment tells of the user. The home directory is not looked for anywhere else. -/
def currentUser : IO User := do
  let home := match ← IO.getEnv "HOME" with
    | none | some "" => .error "could not locate home directory"
    | some path => .ok (.ofString path)
  return ⟨home, (← IO.getEnv "XDG_CACHE_HOME").map Path.ofString⟩

/-- Serves an editor, with a fallback stylesheet if one is given. -/
def serve (stylesheet : Option String) : IO Unit := do
  let fallback ← match stylesheet with
    | some path => pure (.file (.ofString path))
    | none => Fallback.builtIn <$> currentUser
  let working := (Path.ofString (← IO.currentDir).toString).components
  talk (← IO.getStdin) (← IO.getStdout) working (.new (.new true fallback none))

end ClassAtlas.Program

/-- Runs the program. -/
def main (arguments : List String) : IO UInt32 := do
  match ClassAtlas.CommandLine.parse arguments with
  | .error misuse =>
    IO.eprint misuse.message
    return 2
  | .ok .help =>
    IO.print ClassAtlas.CommandLine.helpText
    return 0
  | .ok .version =>
    IO.print ClassAtlas.CommandLine.versionText
    return 0
  | .ok (.serve stylesheet) =>
    ClassAtlas.Program.serve stylesheet
    return 0
