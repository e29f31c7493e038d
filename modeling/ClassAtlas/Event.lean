/-
The log. Every step that has something to tell gives its events in the order in which they
happen; each event has a level and a text.
-/
import ClassAtlas.Failure
import ClassAtlas.Settings
import ClassAtlas.Sheet
import ClassAtlas.Stylesheet.Rules
import ClassAtlas.Text.Quoted

namespace ClassAtlas

/-- How much an event matters. -/
inductive Level
  | trace
  | debug
  | info
  | warn
  deriving DecidableEq, Repr

/-- The name of a level. -/
def Level.name : Level → String
  | .trace => "TRACE"
  | .debug => "DEBUG"
  | .info => "INFO"
  | .warn => "WARN"

/-- Something worth logging. -/
inductive Event
  | rejected (r : Stylesheet.Rejection)
  | skipped (count : Nat) (path : Path)
  | indexed (count : Nat) (path : Path)
  | unknownClass (name : String)
  | noProjectSheet (path : Path) (cause : Files.Error)
  | fallbackWritten (path : Path)
  | built (count : Nat) (path : Path)
  | buildFailed (e : IndexError)
  | resultIgnored
  | settingsIgnored (e : SettingsError)
  | settingsInForce (s : Settings)
  | unavailable (e : IndexError)
  | indexing (sheet : Sheet)
  | opened (uri : String)
  | closed (uri : String)
  deriving DecidableEq, Repr

/-- What is told when no index will come. -/
def IndexError.notice (e : IndexError) : String :=
  "Tachyons definitions unavailable: " ++ e.message

/-- What is told when a stylesheet is about to be indexed. -/
def Sheet.notice (sheet : Sheet) : String :=
  "tachyons-lsp initialized! Indexing " ++ sheet.path.display ++ " (" ++
    sheet.provenance.describe ++ ")"

/-- The settings in words, for the log. -/
def Settings.describe (s : Settings) : String :=
  "Config \x7b languages: [" ++ ", ".intercalate (s.languages.map (Text.quoted ·.toList)) ++
    "], wait_for_index: " ++ toString s.waitForIndex ++ " \x7d"

namespace Event

/-- The level of an event. -/
def level : Event → Level
  | .unknownClass _ => .trace
  | .rejected _ | .indexed _ _ | .noProjectSheet _ _ | .fallbackWritten _ | .settingsInForce _
  | .opened _ | .closed _ => .debug
  | .built _ _ | .indexing _ => .info
  | .skipped _ _ | .buildFailed _ | .resultIgnored | .settingsIgnored _ | .unavailable _ => .warn

/-- The text of an event. -/
def text : Event → String
  | .rejected r =>
    "Skipping unparsable rule at " ++ toString (r.place.line + 1) ++ ":" ++
      toString r.place.column ++ ": " ++ Text.quoted r.text.toList
  | .skipped count path =>
    "Skipped " ++ toString count ++ " unparsable rule(s) in " ++ path.display
  | .indexed count path =>
    "Indexed " ++ toString count ++ " class selector(s) from " ++ path.display
  | .unknownClass name => "No Tachyons class " ++ Text.quoted name.toList ++ " under cursor"
  | .noProjectSheet path cause =>
    "No project stylesheet at " ++ path.display ++ ": " ++ cause.message
  | .fallbackWritten path => "Wrote bundled stylesheet to " ++ path.display
  | .built count path => "Indexed " ++ toString count ++ " Tachyons classes from " ++ path.display
  | .buildFailed e => "Tachyons index build failed: " ++ e.message
  | .resultIgnored => "Ignoring index result: no build in progress"
  | .settingsIgnored e => "Ignoring configuration: " ++ e.message
  | .settingsInForce s => "Effective configuration: " ++ s.describe
  | .unavailable e => e.notice
  | .indexing sheet => sheet.notice
  | .opened uri => "Opened file: " ++ uri
  | .closed uri => "Closed file: " ++ uri

end Event

end ClassAtlas
