/-
The layout of TOML documents: which lines there are, and where keys and values begin and end. A line
holds a header, a key with its value, or nothing, and perhaps a comment. Arrays and inline tables
may run over several lines, have a comma after their last part, and nest eighty deep. What the words
in between stand for is of no concern here, so a layout can be found although some of them stand for
nothing.

Every part takes a character at least, so the length of the text bounds the recursion (`fuel`).
-/
import ClassAtlas.Toml.Quoted
import ClassAtlas.Toml.Scalar

namespace ClassAtlas.Toml

/-- A key or a plain value as it is written, with its quotes. -/
abbrev Written := List Char

/-- A value as it is written. -/
inductive Shape
  | word (text : Written)
  | array (items : List Shape)
  | table (pairs : List (List Written × Shape))
  deriving Repr

/-- A line as it is written: the header of a table, the header of one more table of an array, or a
key with its value. -/
inductive Line
  | header (keys : List Written)
  | item (keys : List Written)
  | pair (keys : List Written) (value : Shape)
  deriving Repr

/-! ## Gaps -/

/-- The text after spaces and tabs. -/
def afterBlanks (cs : List Char) : List Char :=
  cs.dropWhile isBlankChar

/-- The text from the line end on, after the rest of a comment. -/
def afterComment : List Char → Option (List Char)
  | [] => some []
  | '\n' :: r => some ('\n' :: r)
  | '\r' :: '\n' :: r => some ('\r' :: '\n' :: r)
  | c :: r => if isForbidden c then none else afterComment r

/-- The text after the end of a line, which may hold a comment. -/
def afterLine (cs : List Char) : Option (List Char) := do
  let rest ← match afterBlanks cs with
    | '#' :: r => afterComment r
    | rest => some rest
  if rest = [] then some [] else afterNewline? rest

/-- The text after blanks, line ends and comments. -/
def afterGap : (fuel : Nat) → List Char → Option (List Char)
  | 0, _ => none
  | fuel + 1, cs =>
    match afterBlanks cs with
    | '#' :: r => (afterComment r).bind (afterGap fuel)
    | rest =>
      match afterNewline? rest with
      | some r => afterGap fuel r
      | none => some rest

/-! ## Words -/

/-- A character that a word without quotes cannot hold. -/
def endsWord (c : Char) : Bool :=
  ".=,[]\x7b\x7d \t#\r\n".toList.contains c

/-- Splits off a text between quotes, with its quotes; one that is not closed ends with its line,
or with the document if its quotes are tripled. -/
def splitQuotes (quote : Char) (r : List Char) : Written × List Char :=
  let n := if r.take 2 = [quote, quote] then 2 + longLength quote (r.drop 2) else lineLength quote r
  (quote :: r.take n, r.drop n)

/-- Splits off one key; nothing if none is there. -/
def splitKey (cs : List Char) : Written × List Char :=
  match cs with
  | '"' :: r => splitQuotes '"' r
  | '\'' :: r => splitQuotes '\'' r
  | cs => (cs.takeWhile (!endsWord ·), cs.dropWhile (!endsWord ·))

/-- Splits off keys with dots between them, and the blanks after them. -/
def splitKeys : (fuel : Nat) → List Char → List Written × List Char
  | 0, cs => ([], cs)
  | fuel + 1, cs =>
    let (k, rest) := splitKey (afterBlanks cs)
    match afterBlanks rest with
    | '.' :: r =>
      let (ks, rest) := splitKeys fuel r
      (k :: ks, rest)
    | rest => ([k], rest)

/-- Whether a text goes on with a word without quotes. -/
def startsWord : List Char → Bool
  | [] => false
  | c :: _ => !endsWord c && c != '"' && c != '\''

/-- Splits off a value without quotes: words with dots in them and blanks between them. -/
def splitWords : (fuel : Nat) → List Char → Written × List Char
  | 0, cs => ([], cs)
  | fuel + 1, cs =>
    let inWord (c : Char) : Bool := c == '.' || !endsWord c
    let word := cs.takeWhile inWord
    let rest := cs.dropWhile inWord
    let blanks := rest.takeWhile isBlankChar
    if blanks != [] && startsWord (afterBlanks rest) then
      let (more, rest) := splitWords fuel (afterBlanks rest)
      (word ++ blanks ++ more, rest)
    else
      (word, rest)

/-! ## Values -/

mutual

/-- Splits off a value. -/
def splitValue : (fuel depth : Nat) → List Char → Option (Shape × List Char)
  | 0, _, _ => none
  | fuel + 1, depth, cs =>
    match cs, depth with
    | '"' :: r, _ => let (w, r) := splitQuotes '"' r; some (.word w, r)
    | '\'' :: r, _ => let (w, r) := splitQuotes '\'' r; some (.word w, r)
    | '[' :: r, depth + 1 => splitItems fuel depth [] r
    | '\x7b' :: r, depth + 1 => splitPairs fuel depth [] r
    | c :: r, _ =>
      if c == '.' || !endsWord c then
        let (w, rest) := splitWords (fuel + 1) (c :: r)
        some (.word w, rest)
      else
        none
    | [], _ => none

/-- Splits off the rest of an array before an item or its end, given the items read, the last one
first. -/
def splitItems : (fuel depth : Nat) → List Shape → List Char → Option (Shape × List Char)
  | 0, _, _, _ => none
  | fuel + 1, depth, done, cs => do
    match ← afterGap (fuel + 1) cs with
    | ']' :: r => return (.array done.reverse, r)
    | cs =>
      let (v, cs) ← splitValue fuel depth cs
      match ← afterGap (fuel + 1) cs with
      | ',' :: r => splitItems fuel depth (v :: done) r
      | ']' :: r => return (.array (v :: done).reverse, r)
      | _ => none

/-- Splits off the rest of an inline table before a key or its end, given the pairs read, the last
one first. Line ends may stand around the equals sign, but not within a key. The value of the last
key may be missing, even with the equals sign; it is the empty word then. -/
def splitPairs : (fuel depth : Nat) → List (List Written × Shape) → List Char →
    Option (Shape × List Char)
  | 0, _, _, _ => none
  | fuel + 1, depth, done, cs => do
    match ← afterGap (fuel + 1) cs with
    | '\x7d' :: r => return (.table done.reverse, r)
    | cs =>
      let (key, cs) := splitKeys (fuel + 1) cs
      match ← afterGap (fuel + 1) cs with
      | '\x7d' :: r => return (.table ((key, .word []) :: done).reverse, r)
      | cs =>
        match ← afterGap (fuel + 1) (← expect '=' cs) with
        | '\x7d' :: r => return (.table ((key, .word []) :: done).reverse, r)
        | cs =>
          let (v, cs) ← splitValue fuel depth cs
          match ← afterGap (fuel + 1) cs with
          | ',' :: r => splitPairs fuel depth ((key, v) :: done) r
          | '\x7d' :: r => return (.table ((key, v) :: done).reverse, r)
          | _ => none

end

/-- How deep arrays and inline tables may nest. -/
def deepest : Nat := 80

/-! ## Lines -/

/-- The text after a header, which ends with some brackets, given the keys in it. Where the last key
is missing and no bracket follows either, the rest of the line is of no concern. -/
def afterHeader (brackets : List Char) (keys : List Written) (cs : List Char) :
    Option (List Char) :=
  if cs.head? != some ']' && keys.getLast? = some [] then
    afterLine (cs.dropWhile fun c => c != '\n' && c != '\r')
  else if brackets.isPrefixOf cs then
    afterLine (cs.drop brackets.length)
  else
    none

/-- Whether no value follows on a line. -/
def endsLine (cs : List Char) : Bool :=
  cs = [] || cs.head? = some '#' || (afterNewline? cs).isSome

/-- Splits a document into its lines, without the empty ones. Where a value is missing stands the
empty word. -/
def splitLines : (fuel : Nat) → List Char → Option (List Line)
  | 0, _ => none
  | fuel + 1, cs =>
    match afterBlanks cs with
    | [] => some []
    | '[' :: '[' :: r => do
      let (keys, rest) := splitKeys (fuel + 1) r
      return .item keys :: (← splitLines fuel (← afterHeader [']', ']'] keys rest))
    | '[' :: r => do
      let (keys, rest) := splitKeys (fuel + 1) r
      return .header keys :: (← splitLines fuel (← afterHeader [']'] keys rest))
    | cs =>
      if endsLine cs then do
        splitLines fuel (← afterLine cs)
      else do
        let (keys, rest) := splitKeys (fuel + 1) cs
        let rest := afterBlanks (← expect '=' rest)
        let (v, rest) ←
          if endsLine rest then some (.word [], rest) else splitValue (fuel + 1) deepest rest
        return .pair keys v :: (← splitLines fuel (← afterLine rest))

/-- The lines of a document. A byte-order mark before it does not count. -/
def lines? (s : String) : Option (List Line) :=
  let cs := match s.toList with
    | '\ufeff' :: r => r
    | cs => cs
  splitLines (cs.length + 2) cs

end ClassAtlas.Toml
