/-
Settings from an editor's options, a JSON value. Null sets nothing. An object is read by the names
of its fields, other fields being of no concern; an array gives the same two settings by place. A
setting that is absent or null is not set.

The first thing that is wrong is the error: languages before waiting, an earlier language before a
later one, and items that are too many last.
-/
import ClassAtlas.Json.Mismatch
import ClassAtlas.Settings

namespace ClassAtlas.Settings

open ClassAtlas.Json (Mismatch)

/-- Reads the name of a language. -/
def languageOf : Json → Except Mismatch String
  | .text s => .ok s
  | v => .error (.unexpected v "a string")

/-- Reads the languages, if they are set. -/
def languagesOf : Option Json → Except Mismatch (Option (List String))
  | none | some .null => .ok none
  | some (.array items) => (items.mapM languageOf).map some
  | some v => .error (.unexpected v "a sequence")

/-- Reads whether to wait, if that is set. -/
def waitOf : Option Json → Except Mismatch (Option Bool)
  | none | some .null => .ok none
  | some (.bool b) => .ok (some b)
  | some v => .error (.unexpected v "a boolean")

/-- Reads both settings. -/
def overridesOf (languages wait : Option Json) : Except Mismatch Overrides := do
  return ⟨← languagesOf languages, ← waitOf wait⟩

/-- Reads options. -/
def ofOptions : Json → Except Mismatch Overrides
  | .null => .ok Overrides.none
  | .object fields =>
    overridesOf (Json.lastField? "languages" fields) (Json.lastField? "waitForIndex" fields)
  | .array items => do
    let read ← overridesOf items[0]? items[1]?
    if 2 < items.length then .error (.length items.length Json.fewerItems) else .ok read
  | v => .error (.unexpected v "struct ConfigOverrides")

end ClassAtlas.Settings
