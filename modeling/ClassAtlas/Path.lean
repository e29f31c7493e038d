/-
File paths. A path is a sequence of bytes with slashes between its components; it is kept as it
was written, and shown as text for readers. The components of a path leave out empty pieces and
single dots, but keep double dots, which mean nothing until the path is followed.
-/
import ClassAtlas.Text.Utf8

namespace ClassAtlas

/-- A file path, as written. -/
structure Path where
  bytes : List UInt8
  deriving DecidableEq, Repr, Inhabited

namespace Path

/-- One component of a path: the name of a file or directory. -/
abbrev Name := List UInt8

/-- The byte between components. -/
def slash : UInt8 := 0x2F

/-- The name of the same directory. -/
def dot : Name := [0x2E]

/-- The name of the directory above. -/
def dotDot : Name := [0x2E, 0x2E]

/-- The path with a text. -/
def ofString (s : String) : Path :=
  ⟨Text.Utf8.encode s.toList⟩

/-- The text of a path for readers; bytes that are not UTF-8 are shown as replacements. -/
def display (p : Path) : String :=
  String.ofList (Text.Utf8.decode 0 p.bytes)

/-- A path that starts at the root. -/
def isAbsolute (p : Path) : Bool :=
  p.bytes.head? == some slash

/-- The pieces of a byte sequence between slashes. -/
def piecesOf : List UInt8 → List Name
  | [] => [[]]
  | b :: r =>
    if b = slash then
      [] :: piecesOf r
    else
      match piecesOf r with
      | [] => [[b]]
      | n :: ns => (b :: n) :: ns

/-- The pieces of a path between its slashes. -/
def pieces (p : Path) : List Name :=
  piecesOf p.bytes

/-- The components of a path: its pieces without empty ones and single dots. -/
def components (p : Path) : List Name :=
  p.pieces.filter fun n => n != [] && n != dot

/-- A path inside a directory. An absolute path does not depend on the directory. -/
def join (directory path : Path) : Path :=
  if path.isAbsolute then path
  else if directory.bytes = [] || directory.bytes.getLast? = some slash then
    ⟨directory.bytes ++ path.bytes⟩
  else
    ⟨directory.bytes ++ slash :: path.bytes⟩

/-- The path made of components, from the root or not. -/
def ofComponents (absolute : Bool) (names : List Name) : Path :=
  ⟨(if absolute then [slash] else []) ++ [slash].intercalate names⟩

/-- The directories on the way to a path, the nearest first and the root left out. -/
def above (p : Path) : List Path :=
  ((List.range p.components.length).drop 1).reverse.map fun n =>
    ofComponents p.isAbsolute (p.components.take n)

end Path

end ClassAtlas
