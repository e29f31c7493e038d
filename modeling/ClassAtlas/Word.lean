/-
The word under a cursor. Words are made of everything but blanks and the usual punctuation;
hyphens and underscores belong to words, so that a class name such as `bg-light-red` stays in one
piece. The cursor may stand inside a word or just after its last character: the word is the run of
word characters that ends at the cursor, followed by the run that starts there.
-/
import ClassAtlas.Text.Blank
import ClassAtlas.Text.Lines
import ClassAtlas.Text.Position
import ClassAtlas.Text.Units

namespace ClassAtlas

/-- A word of a document: its text, and its place on one line. -/
structure Word where
  text : String
  span : Span
  deriving DecidableEq, Repr

namespace Word

/-- The punctuation that separates words. -/
def separators : List Char :=
  ['\x60', '~', '!', '@', '#', '$', '%', '^', '&', '*', '(', ')', '=', '+', '[', '\x7b', ']',
    '\x7d', '\\', '|', ';', ':', '\'', '"', ',', '.', '<', '>', '/', '?']

/-- A character of a word: neither blank nor a separator. -/
def isWordChar (c : Char) : Bool :=
  !Text.isBlank c && !separators.contains c

/-- The longest end of a text that is made of word characters. -/
def endingRun (cs : List Char) : List Char :=
  (cs.reverse.takeWhile isWordChar).reverse

/-- The word at a character index of one line: its text, and the number of units before it. -/
def onLine (line : List Char) (index : Nat) : Option (Nat × List Char) :=
  let left := endingRun (line.take index)
  let right := (line.drop index).takeWhile isWordChar
  if left.isEmpty && right.isEmpty then
    none
  else
    some (Text.unitCount (line.take (index - left.length)), left ++ right)

/-- The word that a position of a document is on, or touches on its left. -/
def at? (document : String) (p : Position) : Option Word := do
  let line ← Text.line? document.toList p.line
  let (column, text) ← onLine line (Text.indexAt p.column line)
  let start : Position := ⟨p.line, column⟩
  return ⟨String.ofList text, start, start.right (Text.unitCount text)⟩

end Word

end ClassAtlas
