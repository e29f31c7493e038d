/-
Settings: the languages that definitions are offered for, and whether a request waits for an index
that is still being built. They come in layers; a layer sets what it mentions and leaves the rest.
-/

namespace ClassAtlas

/-- The settings in force. -/
structure Settings where
  languages : List String
  waitForIndex : Bool
  deriving DecidableEq, Repr

/-- One layer of settings; what is not set keeps its value. -/
structure Overrides where
  languages : Option (List String)
  waitForIndex : Option Bool
  deriving DecidableEq, Repr

namespace Overrides

/-- The layer that sets nothing. -/
def none : Overrides := ⟨.none, .none⟩

end Overrides

namespace Settings

/-- The settings without any layer. -/
def standard : Settings := ⟨["html", "javascript", "svelte"], true⟩

/-- The settings with a layer on top. -/
def apply (s : Settings) (o : Overrides) : Settings :=
  ⟨o.languages.getD s.languages, o.waitForIndex.getD s.waitForIndex⟩

/-- Whether definitions are offered for a language. -/
def serves (s : Settings) (language : String) : Bool :=
  s.languages.contains language

end Settings

end ClassAtlas
