/-
Reading URIs. Controls and spaces around a URI do not count, nor do tabs and line ends inside it,
which are called breaks here. What is read is brought into normal form: the scheme in lower case,
the default port left out, dots in paths followed, and percent codes where a part needs them.

Special schemes have rules of their own: a backslash counts as a slash, a host is required (for
files it is not), and the path of a file may begin with the name of a drive, which takes the place
of a host.
-/
import ClassAtlas.Uri

namespace ClassAtlas.Uri

open ClassAtlas.Text

/-! ## Characters that count -/

/-- What is cut off both ends of a URI. -/
def isPadding (c : Char) : Bool :=
  c.toNat ≤ 0x20

/-- A text without the padding around it. -/
def trim (cs : List Char) : List Char :=
  ((cs.dropWhile isPadding).reverse.dropWhile isPadding).reverse

/-- Tabs and line ends. -/
def isBreak (c : Char) : Bool :=
  c == '\t' || c == '\n' || c == '\r'

/-- A text without breaks. -/
def withoutBreaks (cs : List Char) : List Char :=
  cs.filter (!isBreak ·)

/-- Splits a text at the first `mark`; the second part is none if there is no mark. -/
def splitMark (mark : Char) (cs : List Char) : List Char × Option (List Char) :=
  match cs.dropWhile (· != mark) with
  | [] => (cs, none)
  | _ :: rest => (cs.takeWhile (· != mark), some rest)

/-! ## Schemes -/

/-- The kinds of schemes that are read differently. -/
inductive SchemeKind
  | file
  | special (port : Option Nat)
  | other
  deriving DecidableEq, Repr

namespace SchemeKind

/-- The kind of a scheme, with the port that a special one stands for. -/
def ofScheme (scheme : List Char) : SchemeKind :=
  match String.ofList scheme with
  | "file" => .file
  | "http" => .special (some 80)
  | "https" => .special (some 443)
  | "ws" => .special (some 80)
  | "wss" => .special (some 443)
  | "ftp" => .special (some 21)
  | _ => .other

/-- The port that a scheme stands for. -/
def port? : SchemeKind → Option Nat
  | .special port => port
  | _ => none

/-- Whether the scheme is special; files are. -/
def isSpecial : SchemeKind → Bool
  | .other => false
  | _ => true

/-- Whether a character separates the segments of a path. -/
def isSlash (k : SchemeKind) (c : Char) : Bool :=
  c == '/' || (k.isSpecial && c == '\\')

/-- The text after a separator at the start of a text, which breaks may precede. -/
def afterSlash? (k : SchemeKind) (cs : List Char) : Option (List Char) :=
  match cs.dropWhile isBreak with
  | c :: r => if k.isSlash c then some r else none
  | [] => none

end SchemeKind

/-- Splits off the scheme and its colon. -/
def schemeOf? (cs : List Char) : Option (List Char × List Char) :=
  let text := cs.takeWhile fun c =>
    c.isAlphanum || c == '+' || c == '-' || c == '.' || isBreak c
  match withoutBreaks text, cs.drop text.length with
  | first :: r, ':' :: rest =>
    if first.isAlpha then some ((first :: r).map Char.toLower, rest) else none
  | _, _ => none

/-! ## Paths -/

/-- A letter and then a colon or a bar: the name of a drive. -/
def isDrive : List Char → Bool
  | [letter, mark] => letter.isAlpha && (mark == ':' || mark == '|')
  | _ => false

/-- The name of a drive, perhaps with a backslash and more after it: a segment that a double dot
does not leave. -/
def holdsOnDrive (segment : List Char) : Bool :=
  isDrive (segment.take 2) && (segment.drop 2).head?.all (· == '\\')

/-- A dot, plain or as a percent code, at the start of a text. -/
def afterDot? : List Char → Option (List Char)
  | '.' :: r => some r
  | '%' :: '2' :: e :: r => if e = 'e' ∨ e = 'E' then some r else none
  | _ => none

/-- Whether a segment is a single dot. -/
def isSingleDot (segment : List Char) : Bool :=
  afterDot? segment == some []

/-- Whether a segment is a double dot. -/
def isDoubleDot (segment : List Char) : Bool :=
  (afterDot? segment).bind afterDot? == some []

/-- The segments without the last one, which stays if a double dot does not leave it. -/
def leaveLast (segments : List (List Char)) : List (List Char) :=
  match segments.getLast? with
  | some last => if holdsOnDrive last then segments else segments.dropLast
  | none => []

/-- A segment in normal form. -/
def segmentText (cs : List Char) : List Char :=
  percentEncodeText codedInPath (withoutBreaks cs)

/-- A letter, a colon and a break at the start of a segment, and what follows, if something does:
there a drive ends, and a new segment begins. -/
def splitDrive? (cs : List Char) : Option (List Char × List Char) :=
  match withoutBreaks cs, (cs.dropWhile (· != ':')).drop 1 with
  | letter :: ':' :: rest, c :: _ =>
    if letter.isAlpha && isBreak c && rest != [] then some ([letter, ':'], segmentText rest)
    else none
  | _, _ => none

/-- Where the segments of a path have led: the segments that stay, and whether the first of them
was given as the name of a drive. -/
structure Trail where
  segments : List (List Char)
  onDrive : Bool

namespace Trail

/-- Goes on to some segments. -/
def extend (t : Trail) (segments : List (List Char)) : Trail :=
  { t with segments := t.segments ++ segments }

/-- Follows one segment. A single dot stays, a double dot leaves the last segment; as the last
segment of a path both stand for an empty one. The name of a drive at the start of a file's path
is written with a colon. -/
def follow (k : SchemeKind) (t : Trail) (cs : List Char) (isLast : Bool) : Trail :=
  let segment := segmentText cs
  let ending : List (List Char) := if isLast then [[]] else []
  if isDoubleDot segment then
    { t with segments := leaveLast t.segments ++ ending }
  else if isSingleDot segment then
    t.extend ending
  else if k = .file ∧ t.segments = [] then
    if isDrive segment then
      ⟨[segment.take 1 ++ [':']], true⟩
    else
      match splitDrive? cs with
      | some (drive, rest) => t.extend [drive, rest]
      | none => t.extend [segment]
  else
    t.extend [segment]

/-- Follows the segments of a path. -/
def followAll (k : SchemeKind) (t : Trail) : List (List Char) → Trail
  | [] => t
  | cs :: rest => (t.follow k cs (rest == [])).followAll k rest

/-- Follows a path, given after its root. The path of a file does not start with empty segments. -/
def ofPath (k : SchemeKind) (cs : List Char) : Trail :=
  let t := followAll k ⟨[], false⟩ (splitAt k.isSlash cs)
  if k = .file then
    match t.segments.dropWhile (· = []) with
    | [] => { t with segments := [[]] }
    | named => { t with segments := named }
  else
    t

/-- Follows a path after an authority, where the root may be missing. -/
def afterAuthority (k : SchemeKind) (cs : List Char) : Trail :=
  match k.afterSlash? cs with
  | some rest => ofPath k rest
  | none => if k.isSpecial || cs != [] then ofPath k cs else ⟨[], false⟩

/-- The path that has been followed. -/
def route (t : Trail) : Route :=
  .rooted t.segments

end Trail

/-! ## Authorities -/

/-- The user and password as they are kept: nothing of them is lost but a colon before an empty
password. -/
def userText (cs : List Char) : List Char :=
  let (name, password) := splitMark ':' cs
  let password := password.getD []
  percentEncodeText codedInUser name ++
    (if password = [] then [] else ':' :: percentEncodeText codedInUser password)

/-- Splits the user from the host at the last `@`. -/
def splitUser (cs : List Char) : Option (List Char) × List Char :=
  let host := (cs.reverse.takeWhile (· != '@')).reverse
  if host.length = cs.length then (none, cs)
  else (some (cs.take (cs.length - host.length - 1)), host)

/-- Splits the port from a host at the first colon outside square brackets. -/
def splitPort (inside : Bool) : List Char → List Char × Option (List Char)
  | [] => ([], none)
  | c :: r =>
    if c = ':' ∧ inside = false then
      ([], some r)
    else
      let (host, port) := splitPort (if c = '[' then true else if c = ']' then false else inside) r
      (c :: host, port)

/-- Reads a port, which is left out if it is empty or the scheme's own. -/
def readPort (standard : Option Nat) (cs : List Char) : Except Fault (Option Nat) :=
  if cs.all Char.isDigit then
    let n := (numeral? 10 cs).getD 0
    if 65535 < n then .error .badPort
    else .ok (if cs = [] || some n = standard then none else some n)
  else
    .error .badPort

/-- Reads the host of an authority; none for the empty name. -/
def readHost (k : SchemeKind) (cs : List Char) : Except Fault (Option Host) := do
  if k.isSpecial then
    if cs = [] then .error .emptyHost else return some (← Host.special cs)
  else
    let host ← Host.other cs
    return if host = .name [] then none else some host

/-- Reads an authority, and gives back what follows the port, from a backslash on. `followed` tells
whether anything follows the authority. -/
def readAuthority (k : SchemeKind) (followed : Bool) (cs : List Char) :
    Except Fault (Authority × List Char) := do
  let (user, rest) := splitUser cs
  if user = some [] && rest = [] && followed then .error .emptyHost
  let (hostText, portText) := splitPort false rest
  let host ← readHost k hostText
  let user := userText (user.getD [])
  if host = none && portText.isSome then .error .emptyHost
  let digits := (portText.getD []).takeWhile (· != '\\')
  let port ← readPort k.port? digits
  if host = none && user ≠ [] then .error .emptyHost
  return (⟨user, host, port⟩, (portText.getD []).drop digits.length)

/-! ## Whole URIs -/

/-- The authority of files on this machine. -/
def noHost : Authority := ⟨[], none, none⟩

/-- Reads the authority and path of a file's URI, after the scheme. A host that is followed by the
name of a drive is left out, and the name of a drive is never taken for a host. -/
def readFileParts (cs : List Char) : Except Fault (Authority × Route) :=
  let k := SchemeKind.file
  match k.afterSlash? cs with
  | none => .ok (noHost, (Trail.ofPath k cs).route)
  | some path =>
    match k.afterSlash? path with
    | none => .ok (noHost, (Trail.ofPath k path).route)
    | some rest =>
      let text := rest.takeWhile (!k.isSlash ·)
      let hostText := withoutBreaks text
      if hostText = [] || isDrive hostText then
        .ok (noHost, (Trail.ofPath k rest).route)
      else do
        let host ← Host.special hostText
        let path := rest.drop text.length
        if isLocal (some host) then
          return (noHost, (Trail.ofPath k path).route)
        let trail := Trail.afterAuthority k path
        return (if trail.onDrive then noHost else ⟨[], some host, none⟩, trail.route)

/-- Reads an authority and the path after it. -/
def readAuthorityAndPath (k : SchemeKind) (followed : Bool) (cs : List Char) :
    Except Fault (Option Authority × Route) := do
  let text := cs.takeWhile (!k.isSlash ·)
  let path := cs.drop text.length
  let (authority, rest) ← readAuthority k (followed || path != []) text
  return (some authority, (Trail.afterAuthority k (rest ++ path)).route)

/-- Reads the authority and path of any other URI, after the scheme. `followed` tells whether
anything follows the path. -/
def readParts (k : SchemeKind) (followed : Bool) (cs : List Char) :
    Except Fault (Option Authority × Route) :=
  if k.isSpecial then
    readAuthorityAndPath k followed (cs.dropWhile k.isSlash)
  else
    match cs with
    | '/' :: '/' :: rest => readAuthorityAndPath k followed rest
    | '/' :: rest => .ok (none, (Trail.ofPath k rest).route)
    | _ => .ok (none, .rootless (percentEncodeText codedAlways cs))

/-- Reads a URI; a text that is no absolute URI has a fault. -/
def parse (s : String) : Except Fault Uri := do
  match schemeOf? (trim s.toList) with
  | none => .error .noScheme
  | some (scheme, rest) =>
    let k := SchemeKind.ofScheme scheme
    let (rest, fragment) := splitMark '#' rest
    let (rest, query) := splitMark '?' rest
    let followed := query.isSome || fragment.isSome
    let (authority, route) ←
      if k = .file then (readFileParts rest).map fun (a, r) => (some a, r)
      else readParts k followed (withoutBreaks rest)
    return {
      scheme
      authority
      route
      query := query.map fun q => percentEncodeText (codedInQuery k.isSpecial) (withoutBreaks q)
      fragment := fragment.map fun f => percentEncodeText codedInFragment (withoutBreaks f) }

/-- Reads a URI; none if the text is no absolute URI. -/
def parse? (s : String) : Option Uri :=
  (parse s).toOption

end ClassAtlas.Uri
