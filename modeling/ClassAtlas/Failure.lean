/-
What can go wrong, by cause, and the text that is shown for each cause.
-/
import ClassAtlas.Files
import ClassAtlas.Json.Mismatch
import ClassAtlas.Toml

namespace ClassAtlas

/-- Why there is no index: the directory for the fallback is not known, the fallback could not be
written, the stylesheet not read, its path has no URI, nothing in it could be read as a rule, or
building was broken off. -/
inductive IndexError
  | noCacheDirectory (cause : String)
  | write (path : Path) (cause : Files.Error)
  | read (path : Path) (cause : Files.Error)
  | invalidPath (path : Path)
  | parse (path : Path) (rejected : Nat)
  | interrupted (text : String)
  deriving DecidableEq, Repr

/-- The text of an index error. -/
def IndexError.message : IndexError → String
  | .noCacheDirectory cause => "could not determine the user cache directory: " ++ cause
  | .write path cause =>
    "could not write bundled stylesheet to " ++ path.display ++ ": " ++ cause.message
  | .read path cause => "could not read " ++ path.display ++ ": " ++ cause.message
  | .invalidPath path => path.display ++ " cannot be turned into a file URI"
  | .parse path rejected =>
    "no rule in " ++ path.display ++ " could be parsed (" ++ toString rejected ++ " rejected)"
  | .interrupted text => "index build did not finish: " ++ text

/-- Why a layer of settings is not used: its file could not be read, it is no settings file, or
the options are not as they should be. -/
inductive SettingsError
  | read (path : Path) (cause : Files.Error)
  | toml (path : Path) (cause : Toml.Fault)
  | options (cause : Json.Mismatch)
  deriving DecidableEq, Repr

/-- The text of a settings error. -/
def SettingsError.message : SettingsError → String
  | .read path cause => "could not read " ++ path.display ++ ": " ++ cause.message
  | .toml path cause => "invalid " ++ path.display ++ ": " ++ cause.message
  | .options cause => "invalid initializationOptions: " ++ cause.message

end ClassAtlas
