/-
The open documents of an editor, by the text of their URIs. Opening a document replaces one that
is open under the same URI; a change brings the whole text anew, and of several changes the last
one counts; changes to a document that is not open are of no effect.
-/
import Std.Data.TreeMap

namespace ClassAtlas

/-- An open document. -/
structure Document where
  language : String
  text : String
  deriving DecidableEq, Repr

/-- The open documents by URI. -/
structure Documents where
  entries : Std.TreeMap String Document

namespace Documents

/-- No open documents. -/
def empty : Documents := ⟨∅⟩

/-- The document that is open under a URI. -/
def get? (d : Documents) (uri : String) : Option Document :=
  d.entries[uri]?

/-- Opens a document. -/
def insert (d : Documents) (uri : String) (document : Document) : Documents :=
  ⟨d.entries.insert uri document⟩

/-- Brings the texts of some changes to a document. -/
def change (d : Documents) (uri : String) (texts : List String) : Documents :=
  match texts.getLast?, d.get? uri with
  | some text, some document => d.insert uri { document with text }
  | _, _ => d

/-- Closes a document. -/
def erase (d : Documents) (uri : String) : Documents :=
  ⟨d.entries.erase uri⟩

end Documents

end ClassAtlas
