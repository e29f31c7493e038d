/-
Tokens of a stylesheet. A token keeps the characters it was written with, so that the texts of the
tokens of a stylesheet, one after the other, are the stylesheet again (`flatMap_text_tokens`).

Only what the rules need is told apart: strings and urls that end badly are of the same kind as
good ones, all numbers are of one kind, and so are all symbols without a role in the rules.
-/
import ClassAtlas.Stylesheet.Name

namespace ClassAtlas.Stylesheet

/-- The three pairs of brackets. -/
inductive Bracket
  | round
  | square
  | curly
  deriving DecidableEq, Repr

namespace Token

/-- What a token is. A `function` is a name with the round bracket it opens; `commentOpen` and
`commentClose` are the marks `<!--` and `-->`. -/
inductive Kind
  | gap
  | comment
  | commentOpen
  | commentClose
  | ident
  | function
  | atKeyword
  | hash
  | number
  | string
  | url
  | opening (b : Bracket)
  | closing (b : Bracket)
  | comma
  | semicolon
  | symbol
  deriving DecidableEq, Repr

end Token

/-- A token: its kind, and the characters it was written with. -/
structure Token where
  kind : Token.Kind
  text : List Char
  deriving DecidableEq, Repr

namespace Token

/-! ## Lengths of the longer tokens -/

/-- The length of a comment after its opening `/*`, with the closing mark if there is one. -/
def commentLength : List Char → Nat
  | [] => 0
  | '*' :: '/' :: _ => 2
  | _ :: r => commentLength r + 1

/-- The length of a string after its opening quote. The string ends after the same quote, or
before the end of the line; a backslash takes the next character, or line end, into the string. -/
def stringLength (quote : Char) (skip : Nat) : List Char → Nat
  | [] => 0
  | c :: r =>
    match skip with
    | n + 1 => stringLength quote n r + 1
    | 0 =>
      if c = quote then 1
      else if isNewline c then 0
      else if c = '\\' then
        stringLength quote (if startsNewline r then gapLength r else escapeLength r) r + 1
      else
        stringLength quote 0 r + 1

/-- Where the reading of a url without quotes stands: in the address, in the white space after it,
or in the rest of a url that went wrong. -/
inductive UrlPart
  | address
  | after
  | wrong
  deriving DecidableEq, Repr

/-- A character that an address may not hold. -/
def isBadInUrl (c : Char) : Bool :=
  let n := c.toNat
  c == '"' || c == '\'' || c == '(' || (1 ≤ n && n ≤ 8) || n == 0xB || (0xE ≤ n && n ≤ 0x1F) ||
    n == 0x7F

/-- The length of a url without quotes, from some part of it to its closing bracket. In a url that
went wrong a backslash hides a bracket or backslash after it. -/
def urlRest (part : UrlPart) (skip : Nat) : List Char → Nat
  | [] => 0
  | c :: r =>
    match skip with
    | n + 1 => urlRest part n r + 1
    | 0 =>
      if c = ')' then 1
      else
        match part with
        | .address =>
          if isGap c then urlRest .after 0 r + 1
          else if c = '\\' then
            if startsNewline r then urlRest .wrong 0 r + 1
            else urlRest .address (escapeLength r) r + 1
          else if isBadInUrl c then urlRest .wrong 0 r + 1
          else urlRest .address 0 r + 1
        | .after =>
          if isGap c then urlRest .after 0 r + 1 else urlRest .wrong 0 r + 1
        | .wrong =>
          if c = '\\' then
            urlRest .wrong (if r.head? = some ')' ∨ r.head? = some '\\' then 1 else 0) r + 1
          else
            urlRest .wrong 0 r + 1

/-- The length of what follows `url(`, if that is a url without quotes. -/
def urlLength? (s : List Char) : Option Nat :=
  let gap := (s.takeWhile isGap).length
  let rest := s.drop gap
  if rest.head? = some '"' ∨ rest.head? = some '\'' then none
  else some (gap + urlRest .address 0 rest)

/-! ## Numbers -/

/-- The number of digits that start a text. -/
def digitsLength (s : List Char) : Nat :=
  (s.takeWhile Char.isDigit).length

/-- The length of the sign that starts a text, if there is one. -/
def signLength : List Char → Nat
  | c :: _ => if c = '+' ∨ c = '-' then 1 else 0
  | [] => 0

/-- The length of a point with digits after it. -/
def fractionLength : List Char → Nat
  | '.' :: r => if digitsLength r = 0 then 0 else digitsLength r + 1
  | _ => 0

/-- The length of an exponent: an `e`, perhaps a sign, and digits. -/
def exponentLength : List Char → Nat
  | c :: r =>
    let sign := signLength r
    let digits := digitsLength (r.drop sign)
    if (c = 'e' ∨ c = 'E') ∧ digits ≠ 0 then 1 + sign + digits else 0
  | [] => 0

/-- The length of the percent sign or the unit after a number. -/
def unitLength : List Char → Nat
  | '%' :: _ => 1
  | s => if startsName s then nameLength 0 s else 0

/-- The length of a number with its sign, fraction, exponent and unit. -/
def numberLength (s : List Char) : Nat :=
  let whole := signLength s + digitsLength (s.drop (signLength s))
  let fraction := whole + fractionLength (s.drop whole)
  let exponent := fraction + exponentLength (s.drop fraction)
  exponent + unitLength (s.drop exponent)

/-- Whether a number starts a text: digits, or a point and digits, perhaps after a sign. -/
def startsNumber (s : List Char) : Bool :=
  let unsigned := s.drop (signLength s)
  digitsLength unsigned ≠ 0 || fractionLength unsigned ≠ 0

/-! ## The next token -/

/-- The kind and length of the token that starts with a name: the name alone, or a function. The
function `url` with an address in its brackets is one token. -/
def named (s : List Char) : Kind × Nat :=
  let n := nameLength 0 s
  match s.drop n with
  | '(' :: r =>
    if namesKeyword (s.take n) "url" then
      match urlLength? r with
      | some k => (.url, n + 1 + k)
      | none => (.function, n + 1)
    else
      (.function, n + 1)
  | _ => (.ident, n)

/-- The kind and length of the token that starts a text; at least one character is taken. -/
def lexeme : List Char → Kind × Nat
  | [] => (.symbol, 0)
  | c :: r =>
    let s := c :: r
    if isGap c then (.gap, (s.takeWhile isGap).length)
    else if c = '"' ∨ c = '\'' then (.string, stringLength c 0 r + 1)
    else if startsNumber s then (.number, numberLength s)
    else if c = '/' ∧ r.head? = some '*' then (.comment, commentLength (r.drop 1) + 2)
    else if ['<', '!', '-', '-'].isPrefixOf s then (.commentOpen, 4)
    else if ['-', '-', '>'].isPrefixOf s then (.commentClose, 3)
    else if startsName s then named s
    else if c = '@' ∧ startsName r then (.atKeyword, nameLength 0 r + 1)
    else if c = '#' ∧ (r.head?.any isNameChar || startsName r) then (.hash, nameLength 0 r + 1)
    else if c = '(' then (.opening .round, 1)
    else if c = ')' then (.closing .round, 1)
    else if c = '[' then (.opening .square, 1)
    else if c = ']' then (.closing .square, 1)
    else if c = '\x7b' then (.opening .curly, 1)
    else if c = '\x7d' then (.closing .curly, 1)
    else if c = ',' then (.comma, 1)
    else if c = ';' then (.semicolon, 1)
    else if ['$', '*', '^', '|', '~'].contains c ∧ r.head? = some '=' then (.symbol, 2)
    else (.symbol, 1)

end Token

/-- The tokens of a stylesheet. -/
def tokens : List Char → List Token
  | [] => []
  | c :: r =>
    let (kind, n) := Token.lexeme (c :: r)
    ⟨kind, c :: r.take (n - 1)⟩ :: tokens (r.drop (n - 1))
termination_by s => s.length
decreasing_by simp only [List.length_drop, List.length_cons]; omega

/-- No character of a stylesheet is lost, added or moved by cutting it into tokens. -/
theorem flatMap_text_tokens (s : List Char) : (tokens s).flatMap Token.text = s := by
  fun_induction tokens s with
  | case1 => rfl
  | case2 c r kind n h ih => simp [ih]

end ClassAtlas.Stylesheet
