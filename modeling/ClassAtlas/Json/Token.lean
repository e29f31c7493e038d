/-
Tokens of JSON: punctuation, the three words, numbers and texts. White space between them is
space, tab, line feed and carriage return.
-/
import ClassAtlas.Json
import ClassAtlas.Text.Pieces

namespace ClassAtlas.Json

/-- A token of JSON. -/
inductive Token
  | openArray
  | closeArray
  | openObject
  | closeObject
  | colon
  | comma
  | value (v : Json)

/-! ## Numbers -/

/-- How a number is written: its sign, the digits before and after the point, and the exponent. -/
structure Numeral where
  negative : Bool
  integer : List Char
  fraction : Option (List Char)
  exponent : Option (Bool × List Char)

/-- Splits off the digits that start a text. -/
def splitDigits (cs : List Char) : List Char × List Char :=
  (cs.takeWhile Char.isDigit, cs.dropWhile Char.isDigit)

/-- Splits off the digits after a point; fails if there are none. -/
def splitFraction : List Char → Option (Option (List Char) × List Char)
  | '.' :: r =>
    match splitDigits r with
    | ([], _) => none
    | (digits, rest) => some (some digits, rest)
  | cs => some (none, cs)

/-- Splits off an exponent; fails if it has no digits. -/
def splitExponent : List Char → Option (Option (Bool × List Char) × List Char)
  | c :: r =>
    if c = 'e' ∨ c = 'E' then
      let (negative, r) := match r with
        | '-' :: r => (true, r)
        | '+' :: r => (false, r)
        | r => (false, r)
      match splitDigits r with
      | ([], _) => none
      | (digits, rest) => some (some (negative, digits), rest)
    else
      some (none, c :: r)
  | [] => some (none, [])

/-- Splits off a number. Digits before the point start with zero only if that is the only one. -/
def splitNumeral (cs : List Char) : Option (Numeral × List Char) := do
  let (negative, cs) := match cs with
    | '-' :: r => (true, r)
    | r => (false, r)
  let (integer, cs) ← match splitDigits cs with
    | ([], _) => none
    | ('0' :: _ :: _, _) => none
    | split => some split
  let (fraction, cs) ← splitFraction cs
  let (exponent, cs) ← splitExponent cs
  return (⟨negative, integer, fraction, exponent⟩, cs)

/-- The value of decimal digits. -/
def digitsValue (cs : List Char) : Nat :=
  (Text.numeral? 10 cs).getD 0

/-- The leading digits that fit into 64 bits, as a number, and how many digits are left over. -/
def leadingDigits (n : Nat) : List Char → Nat × Nat
  | [] => (n, 0)
  | c :: r =>
    let next := 10 * n + (c.toNat - '0'.toNat)
    if next < Nat.pow 2 64 then leadingDigits next r else (n, r.length + 1)

/-- Ten to a power as a floating-point number. -/
def powerOfTen (n : Nat) : Float :=
  Float.ofScientific 1 false n

/-- A significand times a power of ten, each of the two rounded; none if it is too large. Powers
beyond the largest are divided by in steps, of which five leave nothing of 64 bits. -/
def scale (f : Float) (e : Int) : Nat → Option Float
  | 0 => some f
  | steps + 1 =>
    if e.natAbs ≤ 308 then
      let scaled := if 0 ≤ e then f * powerOfTen e.toNat else f / powerOfTen e.natAbs
      if scaled.isInf then none else some scaled
    else if f == 0.0 then some f
    else if 0 ≤ e then none
    else scale (f / powerOfTen 308) (e + 308) steps

/-- The value of a number; none if it is too large for a floating-point number. -/
def Numeral.value? (n : Numeral) : Option Json :=
  let magnitude := digitsValue n.integer
  let asWhole : Int := if n.negative then -(magnitude : Int) else magnitude
  let isWhole := n.fraction.isNone && n.exponent.isNone &&
    (if n.negative then magnitude != 0 && magnitude ≤ Nat.pow 2 63 else decide (magnitude < Nat.pow 2 64))
  if isWhole then
    some (.whole asWhole)
  else
    let fraction := n.fraction.getD []
    let (significand, left) := leadingDigits 0 (n.integer ++ fraction)
    let power : Int := match n.exponent with
      | none => 0
      | some (negative, digits) =>
        if negative then -(digitsValue digits : Int) else digitsValue digits
    (scale (Float.ofNat significand) (power + left - fraction.length) 5).map
      fun f => .real (if n.negative then -f else f)

/-! ## Texts -/

/-- The value of four hexadecimal digits. -/
def fourHex? (a b c d : Char) : Option Nat :=
  Text.numeral? 16 [a, b, c, d]

/-- The character that a backslash and a letter stand for. -/
def simpleEscape? (c : Char) : Option Char :=
  match c with
  | '"' => some '"'
  | '\\' => some '\\'
  | '/' => some '/'
  | 'b' => some '\x08'
  | 'f' => some '\x0c'
  | 'n' => some '\n'
  | 'r' => some '\r'
  | 't' => some '\t'
  | _ => none

/-- Splits off a text after its opening quote, with the quote that closes it. Two escapes of
UTF-16 units that belong together stand for one character; one alone is refused. -/
def splitText : List Char → Option (List Char × List Char)
  | [] => none
  | '"' :: rest => some ([], rest)
  | '\\' :: 'u' :: a :: b :: c :: d :: '\\' :: 'u' :: e :: f :: g :: h :: rest => do
    let high ← fourHex? a b c d
    if 0xD800 ≤ high && high < 0xDC00 then
      let low ← fourHex? e f g h
      if 0xDC00 ≤ low && low < 0xE000 then
        let (cs, rest) ← splitText rest
        return (Char.ofNat (0x10000 + (high - 0xD800) * 0x400 + (low - 0xDC00)) :: cs, rest)
      else
        none
    else if 0xDC00 ≤ high && high < 0xE000 then
      none
    else
      let (cs, rest) ← splitText ('\\' :: 'u' :: e :: f :: g :: h :: rest)
      return (Char.ofNat high :: cs, rest)
  | '\\' :: 'u' :: a :: b :: c :: d :: rest => do
    let unit ← fourHex? a b c d
    if 0xD800 ≤ unit && unit < 0xE000 then none
    let (cs, rest) ← splitText rest
    return (Char.ofNat unit :: cs, rest)
  | '\\' :: e :: rest => do
    let c ← simpleEscape? e
    let (cs, rest) ← splitText rest
    return (c :: cs, rest)
  | c :: rest => do
    if c.toNat < 0x20 then none
    let (cs, rest) ← splitText rest
    return (c :: cs, rest)

/-! ## Tokens -/

/-- White space of JSON. -/
def isSpace (c : Char) : Bool :=
  c == ' ' || c == '\t' || c == '\n' || c == '\r'

/-- Splits off a word. -/
def splitWord (word : String) (v : Json) (cs : List Char) : Option (Token × List Char) :=
  if word.toList.isPrefixOf cs then some (.value v, cs.drop word.length) else none

/-- Splits off the token that starts a text. -/
def splitToken : List Char → Option (Token × List Char)
  | [] => none
  | '[' :: r => some (.openArray, r)
  | ']' :: r => some (.closeArray, r)
  | '\x7b' :: r => some (.openObject, r)
  | '\x7d' :: r => some (.closeObject, r)
  | ':' :: r => some (.colon, r)
  | ',' :: r => some (.comma, r)
  | '"' :: r => (splitText r).map fun (cs, r) => (.value (.text (String.ofList cs)), r)
  | 't' :: r => splitWord "true" (.bool true) ('t' :: r)
  | 'f' :: r => splitWord "false" (.bool false) ('f' :: r)
  | 'n' :: r => splitWord "null" .null ('n' :: r)
  | cs => do
    let (n, r) ← splitNumeral cs
    return (.value (← n.value?), r)

/-- The tokens of a text; none if some part of it is no token. `fuel` bounds their number. -/
def tokensWithin : Nat → List Char → Option (List Token)
  | 0, _ => none
  | fuel + 1, cs =>
    match cs.dropWhile isSpace with
    | [] => some []
    | rest => do
      let (t, rest) ← splitToken rest
      return t :: (← tokensWithin fuel rest)

/-- The tokens of a text. Each takes a character at least, so their number is bounded. -/
def tokens? (cs : List Char) : Option (List Token) :=
  tokensWithin (cs.length + 1) cs

end ClassAtlas.Json
