/-
Settings from a file in the workspace, a TOML document with the same two settings at its root. A
workspace without the file sets nothing; a file that cannot be read, is not TOML, or gives a
setting of another type is an error as a whole.
-/
import ClassAtlas.Failure
import ClassAtlas.Settings
import ClassAtlas.Toml.Reader

namespace ClassAtlas.Settings

/-- The name of the settings file. -/
def fileName : String := ".tachyons-lsp.toml"

/-- The texts of an array of texts. -/
def textsOf (items : List Toml.Value) : Option (List String) :=
  items.mapM fun
    | .text s => some s
    | _ => none

/-- Reads the settings at the root of a document; none if one of them has another type. -/
def ofDocument (d : Toml.Document) : Option Overrides := do
  let languages ← match d.entry? ["languages"] with
    | none => some none
    | some (.value (.array items)) => (textsOf items).map some
    | some _ => none
  let waitForIndex ← match d.entry? ["waitForIndex"] with
    | none => some none
    | some (.value (.bool b)) => some (some b)
    | some _ => none
  return ⟨languages, waitForIndex⟩

/-- Reads the settings of a workspace. -/
def ofWorkspace (fs : Files) (root : Path) : Except SettingsError (Option Overrides) :=
  let path := root.join (.ofString fileName)
  match fs.readText path with
  | .error .notFound => .ok none
  | .error e => .error (.read path e)
  | .ok text =>
    match Toml.parse text >>= fun d => Toml.orMalformed (ofDocument d) with
    | .error e => .error (.toml path e)
    | .ok overrides => .ok (some overrides)

end ClassAtlas.Settings
