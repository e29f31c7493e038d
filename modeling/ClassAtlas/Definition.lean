/-
Where the class under a cursor is declared: the word under the cursor, the class of it that the
cursor is on, and that class in the index. A class that is not in the index is logged.
-/
import ClassAtlas.ClassList
import ClassAtlas.Index
import ClassAtlas.Word

namespace ClassAtlas.Index

/-- The class that a position of a document selects; none where there is no word. -/
def classUnder (document : String) (p : Position) : Option String := do
  let word ← Word.at? document p
  let offset := Text.indexAt (p.column - word.span.start.column) word.text.toList
  return ClassList.classAt word.text offset

/-- The declaration of the class at a position of a document. -/
def declarationAt (i : Index) (document : String) (p : Position) :
    Option Declaration × List Event :=
  match classUnder document p with
  | none => (none, [])
  | some name =>
    match i.find? name with
    | none => (none, [.unknownClass name])
    | some d => (some d, [])

end ClassAtlas.Index
