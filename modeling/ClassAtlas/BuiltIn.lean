/-
The built-in stylesheet, for projects that bring none of their own. Editors can only show files,
so it is written to a file before it is used; the file's name carries the version of this program.
-/
import ClassAtlas.BuiltIn.Plain
import ClassAtlas.BuiltIn.Screens

namespace ClassAtlas.BuiltIn

/-- The version of this program. -/
def version : String := "0.3.0"

/-- The lines of the built-in stylesheet. -/
def lines : List String :=
  contents ++ boxes ++ placement ++ lettering ++ extents ++ skins ++ spacing ++ prose ++
    notSmall ++ medium ++ large

/-- The text of the built-in stylesheet. -/
def text : String :=
  String.join (lines.map (· ++ "\n"))

/-- The name of the file that holds the built-in stylesheet. -/
def fileName : String :=
  "tachyons-" ++ version ++ ".css"

end ClassAtlas.BuiltIn
