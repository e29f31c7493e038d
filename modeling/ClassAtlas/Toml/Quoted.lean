/-
Texts of TOML between quotes. Double quotes allow escapes, single quotes take every character as
it is; tripled quotes of either kind allow line ends, and up to two quotes right before the end.
Control characters other than the tab are refused, and a carriage return needs its line feed.
-/

namespace ClassAtlas.Toml

/-- A control character that may stand nowhere. -/
def isForbidden (c : Char) : Bool :=
  (c.toNat < 0x20 && c != '\t') || c.toNat == 0x7F

/-- The text after a line end, if it starts with one. -/
def afterNewline? : List Char → Option (List Char)
  | '\n' :: r => some r
  | '\r' :: '\n' :: r => some r
  | _ => none

/-- Spaces and tabs. -/
def isBlankChar (c : Char) : Bool :=
  c == ' ' || c == '\t'

/-- The character with a number written in hexadecimal digits. -/
def hexChar? (cs : List Char) : Option Char := do
  let n ← cs.foldlM (fun n c => do
    let d ← if c.isDigit then some (c.toNat - '0'.toNat)
      else if 'a' ≤ c && c ≤ 'f' then some (c.toNat - 'a'.toNat + 10)
      else if 'A' ≤ c && c ≤ 'F' then some (c.toNat - 'A'.toNat + 10)
      else none
    return 16 * n + d) 0
  if h : n.isValidChar then some (Char.ofNatAux n h) else none

/-- The number of hexadecimal digits that an escape takes. -/
def hexDigitsAfter? (c : Char) : Option Nat :=
  match c with
  | 'x' => some 2
  | 'u' => some 4
  | 'U' => some 8
  | _ => none

/-- The character that a backslash and a letter stand for. -/
def letterEscape? (c : Char) : Option Char :=
  match c with
  | '"' => some '"'
  | '\\' => some '\\'
  | 'b' => some '\x08'
  | 'e' => some '\x1b'
  | 'f' => some '\x0c'
  | 'n' => some '\n'
  | 'r' => some '\r'
  | 't' => some '\t'
  | _ => none

/-- The character of the escape after a backslash, and how many characters it takes. -/
def escape? : List Char → Option (Char × Nat)
  | [] => none
  | c :: r =>
    match hexDigitsAfter? c with
    | some n =>
      if (r.take n).length = n then (hexChar? (r.take n)).map fun d => (d, n + 1) else none
    | none => (letterEscape? c).map fun d => (d, 1)

/-- The length of the longest run of blanks and line ends. -/
def trimmedRun : List Char → Nat
  | '\r' :: '\n' :: r => trimmedRun r + 2
  | c :: r => if isBlankChar c || c == '\n' then trimmedRun r + 1 else 0
  | [] => 0

/-- How many characters a backslash at the end of a line takes after it: the blanks before the
line end, and all blanks and line ends that follow. -/
def trimmedLength? (cs : List Char) : Option Nat :=
  if (afterNewline? (cs.dropWhile isBlankChar)).isSome then some (trimmedRun cs) else none

/-- Puts a character before a text already split off. -/
def cons (c : Char) (rest : Option (List Char × List Char)) : Option (List Char × List Char) :=
  rest.map fun (cs, r) => (c :: cs, r)

/-- Splits off a text on one line after its opening quote, with the closing one; `escapes` tells
whether backslashes are escapes, and `skip` counts characters of an escape already read. -/
def splitLineText (quote : Char) (escapes : Bool) (skip : Nat) :
    List Char → Option (List Char × List Char)
  | [] => none
  | c :: r =>
    match skip with
    | n + 1 => splitLineText quote escapes n r
    | 0 =>
      if c = quote then some ([], r)
      else if isForbidden c then none
      else if escapes && c == '\\' then
        match escape? r with
        | none => none
        | some (d, n) => cons d (splitLineText quote escapes n r)
      else
        cons c (splitLineText quote escapes 0 r)

/-- The number of quotes at the start of a text. -/
def quotesAt (quote : Char) (cs : List Char) : Nat :=
  (cs.takeWhile (· = quote)).length

/-- Splits off a text over several lines after its opening quotes, with the closing ones. -/
def splitLongText (quote : Char) (escapes : Bool) (skip : Nat) :
    List Char → Option (List Char × List Char)
  | [] => none
  | c :: r =>
    match skip with
    | n + 1 => splitLongText quote escapes n r
    | 0 =>
      if c = quote then
        let n := min 5 (quotesAt quote (c :: r))
        if 3 ≤ n then some (List.replicate (n - 3) quote, r.drop (n - 1))
        else cons c (splitLongText quote escapes 0 r)
      else if c = '\n' || (c = '\r' && r.head? = some '\n') then
        cons c (splitLongText quote escapes 0 r)
      else if isForbidden c then none
      else if escapes && c == '\\' then
        match trimmedLength? r with
        | some n => splitLongText quote escapes n r
        | none =>
          match escape? r with
          | none => none
          | some (d, n) => cons d (splitLongText quote escapes n r)
      else
        cons c (splitLongText quote escapes 0 r)

/-! ## Lengths -/

/-- How many characters a text on one line takes after its opening quote, with the closing one. In
double quotes a backslash and a quote or backslash after it do not end the text. -/
def lineLength (quote : Char) : List Char → Nat
  | [] => 0
  | '\n' :: _ => 0
  | '\\' :: c :: r =>
    if quote = '"' ∧ (c = '"' ∨ c = '\\') then lineLength quote r + 2
    else lineLength quote (c :: r) + 1
  | c :: r => if c = quote then 1 else lineLength quote r + 1

/-- How many characters a text over several lines takes after its opening quotes, with the closing
ones. -/
def longLength (quote : Char) : List Char → Nat
  | [] => 0
  | '\\' :: c :: r =>
    if quote = '"' ∧ (c = '"' ∨ c = '\\') then longLength quote r + 2
    else longLength quote (c :: r) + 1
  | c :: r =>
    let n := min 5 (quotesAt quote (c :: r))
    if 3 ≤ n then n else longLength quote r + 1

/-! ## Splitting -/

/-- Splits off a text with its quotes, on one line or on several. A line end right after tripled
quotes does not count. -/
def splitQuoted (quote : Char) (r : List Char) : Option (List Char × List Char) :=
  let escapes := quote == '"'
  if r.take 2 = [quote, quote] then
    let inner := r.drop 2
    splitLongText quote escapes 0 ((afterNewline? inner).getD inner)
  else
    splitLineText quote escapes 0 r

end ClassAtlas.Toml
