/-
A session with an editor. The editor greets with the root of its workspace and its options; when
it is done with that, the settings are put together, the stylesheet is chosen and read, and its
index is built. Meanwhile documents come, change and go, and definitions are asked for.

A request for a definition is answered from the document and the settings of the moment it is made.
If it has to wait for the index, it keeps that text and is answered in the step that ends the
build.
-/
import ClassAtlas.Build
import ClassAtlas.Definition
import ClassAtlas.Documents
import ClassAtlas.Locate
import ClassAtlas.Settings.File
import ClassAtlas.Settings.Options

namespace ClassAtlas

/-- Something told to the editor's user: a warning, or information. -/
inductive Notice
  | warning (text : String)
  | info (text : String)
  deriving DecidableEq, Repr

namespace Session

/-- A request for a definition that waits for the index: its number, the text of its document, and
its position. -/
structure Pending where
  number : Nat
  text : String
  position : Position
  deriving DecidableEq, Repr

/-- An answer to the request with a number. -/
structure Answer where
  number : Nat
  declaration : Option Declaration
  deriving DecidableEq, Repr

/-- What an editor says at the beginning: the root of its workspace, the folders of it, and its
options. -/
structure Greeting where
  root : Option Uri
  folders : List Uri
  options : Option Json

end Session

/-- A session. `overrides` is the layer of settings that the editor's options set; `hasClient`
tells whether there is an editor to be told notices. -/
structure Session where
  hasClient : Bool
  fallback : Fallback
  root : Option Path
  overrides : Overrides
  settings : Settings
  documents : Documents
  build : Build.Handle Session.Pending

namespace Session

/-- A session before its first step. -/
def new (hasClient : Bool) (fallback : Fallback) (root : Option Path) : Session :=
  ⟨hasClient, fallback, root, .none, .standard, .empty, .new⟩

/-- What a step comes to: the session and the files after it, its events, what the user is told,
and the answers it gives. -/
structure Reaction where
  session : Session
  files : Files
  events : List Event
  notices : List Notice
  answers : List Answer

/-! ## Greeting -/

/-- The root that a greeting names: the root of the workspace if it is on this machine, else the
first folder. -/
def Greeting.rootPath (g : Greeting) : Option Path :=
  (g.root.bind Uri.toPath?).or (g.folders.head?.bind Uri.toPath?)

/-- Takes up a greeting. A root that was known stays if the greeting names none; options that are
not accepted change nothing. -/
def greet (s : Session) (g : Greeting) : Session × List Event :=
  let s := { s with root := g.rootPath.or s.root }
  match g.options with
  | none => (s, [])
  | some options =>
    match Settings.ofOptions options with
    | .ok overrides => ({ s with settings := s.settings.apply overrides, overrides }, [])
    | .error e => (s, [.settingsIgnored (.options e)])

/-! ## The build -/

/-- Answers requests that have waited, from an index if there is one. -/
def answerAll (index : Option Index) (released : List Pending) : List Answer × List Event :=
  let found := released.map fun p =>
    match index with
    | none => (Answer.mk p.number none, [])
    | some i =>
      let (declaration, events) := i.declarationAt p.text p.position
      (Answer.mk p.number declaration, events)
  (found.map (·.1), found.flatMap (·.2))

/-- Takes over a change of the build, and answers what it releases. -/
def follow {α : Type} (s : Session) (fs : Files) (before : List Event) (notices : List Notice)
    (change : Build.Change Pending α) : Reaction :=
  let (answers, events) := answerAll change.handle.state.index? change.released
  { session := { s with build := change.handle }
    files := fs
    events := before ++ change.events ++ events
    notices := if s.hasClient then notices else []
    answers }

/-- Starts a build whose result will be brought from elsewhere; tells whether it was started. -/
def hold (s : Session) : Session × Bool :=
  let change := s.build.start
  ({ s with build := change.handle }, change.value)

/-- Brings a result to the build. -/
def publish (s : Session) (fs : Files) (result : Except IndexError Index) : Reaction :=
  s.follow fs [] [] (s.build.publish result)

/-- Runs the build that was started, to its end. -/
def runBuild (s : Session) (fs : Files) : Reaction :=
  s.follow fs [] [] s.build.run

/-- Breaks off the build that was started. -/
def interruptBuild (s : Session) (fs : Files) (text : String) : Reaction :=
  s.follow fs [] [] (s.build.interrupt text)

/-! ## Beginning to work -/

/-- The settings in force: the standard, the workspace's file on top, the editor's options last.
A file that is not accepted is told and left out. -/
def gatherSettings (s : Session) (fs : Files) : Settings × List Event × List Notice :=
  let read : Except SettingsError (Option Overrides) := match s.root with
    | none => .ok none
    | some root => Settings.ofWorkspace fs root
  let (layer, events, notices) := match read with
    | .ok layer => (layer.getD .none, [], [])
    | .error e => (.none, [Event.settingsIgnored e], [Notice.warning e.message])
  let settings := (Settings.standard.apply layer).apply s.overrides
  (settings, events ++ [.settingsInForce settings], notices)

/-- Chooses the stylesheet and reads it. -/
def choose (s : Session) (fs : Files) : Outcome (Except IndexError (Sheet × String)) :=
  let located := Sheet.locate fs s.root s.fallback
  let read := located.result.bind fun sheet => (Index.readSheet located.files sheet).map (sheet, ·)
  ⟨located.files, located.events, read⟩

/-- Gathers the settings, chooses and reads the stylesheet, and starts the build of its index;
what goes wrong on the way makes the build fail. -/
def begin (s : Session) (fs : Files) : Reaction :=
  let (settings, events, notices) := s.gatherSettings fs
  let chosen := s.choose fs
  let s := { s with settings }
  let events := events ++ chosen.events
  match chosen.result with
  | .error e =>
    s.follow chosen.files (events ++ [.unavailable e]) (notices ++ [.warning e.notice])
      (s.build.fail e)
  | .ok (sheet, css) =>
    s.follow chosen.files (events ++ [.indexing sheet]) (notices ++ [.info sheet.notice])
      (s.build.spawn sheet css)

/-- The paths that beginning to work may read or write: the settings file and the stylesheet of the
workspace, and the fallback, if it is known where that is. -/
def pathsInUse (s : Session) : List Path :=
  let ofRoot := match s.root with
    | none => []
    | some root => [root.join (.ofString Settings.fileName), root.join Sheet.projectPath]
  ofRoot ++ s.fallback.target.toOption.toList

/-! ## Documents -/

/-- A document is opened. -/
def openDocument (s : Session) (uri : Uri) (document : Document) : Session × List Event :=
  ({ s with documents := s.documents.insert uri.text document }, [.opened uri.text])

/-- The texts of some changes to a document come in. -/
def changeDocument (s : Session) (uri : Uri) (texts : List String) : Session :=
  { s with documents := s.documents.change uri.text texts }

/-- A document is closed. -/
def closeDocument (s : Session) (uri : Uri) : Session × List Event :=
  ({ s with documents := s.documents.erase uri.text }, [.closed uri.text])

/-! ## Definitions -/

/-- The document that a request is about, if definitions are offered for it. -/
def servedDocument? (s : Session) (uri : Uri) : Option Document :=
  (s.documents.get? uri.text).filter fun d => s.settings.serves d.language

/-- Asks for the definition at a position of a document; the answer has the request's number. -/
def ask (s : Session) (fs : Files) (number : Nat) (uri : Uri) (position : Position) : Reaction :=
  match s.servedDocument? uri with
  | none => ⟨s, fs, [], [], [⟨number, none⟩]⟩
  | some document =>
    let request : Pending := ⟨number, document.text, position⟩
    if s.settings.waitForIndex then
      s.follow fs [] [] (s.build.wait request)
    else
      let (answers, events) := answerAll s.build.state.index? [request]
      ⟨s, fs, events, [], answers⟩

end Session

end ClassAtlas
