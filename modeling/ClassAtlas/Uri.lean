/-
URIs. A URI is kept as its parts, already in normal form, and its text is put together from them.
A path either has a root and then segments, or is one text without a root.

Files have URIs: the URI of an absolute path has one segment for each component of the path
(`ofPath?`), and a URI with a rooted path and no host but `localhost` leads to the path whose
bytes its segments stand for, whatever its scheme (`toPath?`).
-/
import ClassAtlas.Path
import ClassAtlas.Uri.Host

namespace ClassAtlas

namespace Uri

/-- What stands between `//` and the path: the user with a password, the host, and the port. -/
structure Authority where
  user : List Char
  host : Option Host
  port : Option Nat
  deriving DecidableEq, Repr

/-- A path: segments after a root, or a text without a root. A rooted path with no segments is
empty; with one empty segment it is the root alone. -/
inductive Route
  | rooted (segments : List (List Char))
  | rootless (text : List Char)
  deriving DecidableEq, Repr

end Uri

/-- A URI in its parts. -/
structure Uri where
  scheme : List Char
  authority : Option Uri.Authority
  route : Uri.Route
  query : Option (List Char)
  fragment : Option (List Char)
  deriving DecidableEq, Repr

namespace Uri

/-! ## Text -/

/-- The text of an authority, without the slashes before it. -/
def Authority.text (a : Authority) : List Char :=
  (if a.user = [] then [] else a.user ++ ['@']) ++
    (a.host.map Host.text).getD [] ++
    (a.port.map fun n => ':' :: decimal n).getD []

/-- The text of a path. -/
def Route.text : Route → List Char
  | .rooted segments => segments.flatMap fun s => '/' :: s
  | .rootless text => text

/-- The characters of a URI. Before a path that starts with two slashes, `/.` says that no
authority follows. -/
def chars (u : Uri) : List Char :=
  let path := u.route.text
  u.scheme ++ [':'] ++
    (match u.authority with
      | some a => ['/', '/'] ++ a.text
      | none => if ['/', '/'].isPrefixOf path then ['/', '.'] else []) ++
    path ++
    (u.query.map ('?' :: ·)).getD [] ++
    (u.fragment.map ('#' :: ·)).getD []

/-- The text of a URI. -/
def text (u : Uri) : String :=
  String.ofList u.chars

/-! ## Files -/

/-- The scheme of files. -/
def fileScheme : List Char :=
  ['f', 'i', 'l', 'e']

/-- The URI of a file, if its path is absolute: one segment for each component. -/
def ofPath? (p : Path) : Option Uri :=
  if p.isAbsolute then
    let segments := p.components.map (percentEncode codedInName)
    some {
      scheme := fileScheme
      authority := some ⟨[], none, none⟩
      route := .rooted (if segments = [] then [[]] else segments)
      query := none
      fragment := none }
  else
    none

/-- A host that is this machine: none, or the one named `localhost`. -/
def isLocal (host : Option Host) : Bool :=
  host == none || host == some (.name "localhost".toList)

/-- Whether the last two bytes read as the name of a drive: a letter, then a colon or a bar. -/
def endsInDrive (bytes : List UInt8) : Bool :=
  match bytes.reverse with
  | mark :: letter :: _ :: _ =>
    (mark == 0x3A || mark == 0x7C) && (Char.ofNat letter.toNat).isAlpha && letter < 0x80
  | _ => false

/-- The path that a URI leads to on this machine. After the name of a drive a slash is added. -/
def toPath? (u : Uri) : Option Path :=
  match u.route with
  | .rooted (s :: ss) =>
    if isLocal (u.authority.bind (·.host)) then
      let bytes := (s :: ss).flatMap fun s => Path.slash :: percentDecode s
      some ⟨if endsInDrive bytes then bytes ++ [Path.slash] else bytes⟩
    else
      none
  | _ => none

end Uri

end ClassAtlas
