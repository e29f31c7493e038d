/-
Values of TOML that are written without quotes: the two truth values, whole numbers, floating
point numbers, and dates and times.
-/
import ClassAtlas.Toml

namespace ClassAtlas.Toml

/-! ## Numbers -/

/-- Whether a text consists of digits, perhaps with single underscores between them. -/
def areDigits (isDigit : Char → Bool) : List Char → Bool
  | [] => false
  | [c] => isDigit c
  | c :: '_' :: r => isDigit c && areDigits isDigit r
  | c :: r => isDigit c && areDigits isDigit r

/-- The text after a sign, if it starts with one. -/
def unsigned : List Char → List Char
  | '+' :: r => r
  | '-' :: r => r
  | cs => cs

/-- The value of digits in a base; underscores do not count. -/
def digitsValue (base : Nat) (cs : List Char) : Nat :=
  (cs.filter (· != '_')).foldl (fun n c =>
    base * n + (if c.isDigit then c.toNat - '0'.toNat else c.toLower.toNat - 'a'.toNat + 10)) 0

/-- Decimal digits that start with zero only if that is the only one. -/
def isPlainWhole (cs : List Char) : Bool :=
  areDigits Char.isDigit cs && (cs.head? != some '0' || cs.length == 1)

/-- A digit of base eight. -/
def isOctal (c : Char) : Bool := '0' ≤ c && c ≤ '7'

/-- A digit of base two. -/
def isBinary (c : Char) : Bool := c == '0' || c == '1'

/-- A digit of base sixteen. -/
def isHex (c : Char) : Bool :=
  c.isDigit || ('a' ≤ c && c ≤ 'f') || ('A' ≤ c && c ≤ 'F')

/-- A whole number, decimal with or without sign, or in another base after its mark. -/
def isWhole (cs : List Char) : Bool :=
  match cs with
  | '0' :: 'x' :: r => areDigits isHex r
  | '0' :: 'o' :: r => areDigits isOctal r
  | '0' :: 'b' :: r => areDigits isBinary r
  | cs => isPlainWhole (unsigned cs)

/-- Whether a whole number does not fit into 128 bits, with or without sign. -/
def isTooLargeWhole (cs : List Char) : Bool :=
  match cs with
  | '0' :: 'x' :: r => Nat.pow 2 128 ≤ digitsValue 16 r
  | '0' :: 'o' :: r => Nat.pow 2 128 ≤ digitsValue 8 r
  | '0' :: 'b' :: r => Nat.pow 2 128 ≤ digitsValue 2 r
  | '-' :: r => Nat.pow 2 127 < digitsValue 10 r
  | cs => Nat.pow 2 128 ≤ digitsValue 10 (unsigned cs)

/-- Splits a text before the first character with a property. -/
def splitBefore (p : Char → Bool) (cs : List Char) : List Char × List Char :=
  (cs.takeWhile fun c => !p c, cs.dropWhile fun c => !p c)

/-- Whether `n · 10^e` is too large for a floating-point number of 64 bits: not less than the
largest of them and half the step after it. -/
def exceedsFloats (n : Nat) (e : Int) : Bool :=
  let size := (Nat.toDigits 10 n).length
  if n = 0 || size + e < 300 then false
  else if 320 < size + e then true
  else (Nat.pow 2 1024 - Nat.pow 2 970) * Nat.pow 10 (-e).toNat ≤ n * Nat.pow 10 e.toNat

/-- The whole digits of a floating-point number without sign, its fraction with the point, and its
exponent with the letter. -/
def floatParts (cs : List Char) : List Char × List Char × List Char :=
  let (mantissa, exponent) := splitBefore (fun c => c == 'e' || c == 'E') cs
  let (whole, fraction) := splitBefore (· == '.') mantissa
  (whole, fraction, exponent)

/-- The words for what is no finite number. -/
def isNotFinite (cs : List Char) : Bool :=
  cs == "inf".toList || cs == "nan".toList

/-- A floating-point number: a whole number with a fraction or an exponent, or one of the words for
what is no finite number. -/
def isFloat (cs : List Char) : Bool :=
  let (whole, fraction, exponent) := floatParts (unsigned cs)
  isNotFinite (unsigned cs) ||
    (isPlainWhole whole && (fraction = [] || areDigits Char.isDigit (fraction.drop 1)) &&
      (exponent = [] || areDigits Char.isDigit (unsigned (exponent.drop 1))) &&
      (fraction ≠ [] || exponent ≠ []))

/-- Whether a floating-point number is too large to be stored. -/
def isTooLargeFloat (cs : List Char) : Bool :=
  let (whole, fraction, exponent) := floatParts (unsigned cs)
  let power := digitsValue 10 (unsigned (exponent.drop 1))
  let scale : Int :=
    (if (exponent.drop 1).head? = some '-' then -(power : Int) else power) -
      (fraction.filter Char.isDigit).length
  !isNotFinite (unsigned cs) && exceedsFloats (digitsValue 10 (whole ++ fraction.drop 1)) scale

/-- Whether a text is a number too large to be stored. -/
def isTooLarge (cs : List Char) : Bool :=
  (isWhole cs && isTooLargeWhole cs) || (isFloat cs && isTooLargeFloat cs)

/-! ## Dates and times -/

/-- The value of exactly `n` digits at the start of a text, and the rest. -/
def fixedDigits (n : Nat) (cs : List Char) : Option (Nat × List Char) :=
  let digits := cs.take n
  if digits.length = n && digits.all Char.isDigit then some (digitsValue 10 digits, cs.drop n)
  else none

/-- The text after a character that must come next. -/
def expect (c : Char) : List Char → Option (List Char)
  | d :: r => if c = d then some r else none
  | [] => none

/-- The number of days of a month. -/
def daysOf (year month : Nat) : Nat :=
  if month = 2 then
    if year % 4 = 0 && (year % 100 ≠ 0 || year % 400 = 0) then 29 else 28
  else if month = 4 || month = 6 || month = 9 || month = 11 then 30
  else 31

/-- The rest after a date. -/
def afterDate (cs : List Char) : Option (List Char) := do
  let (year, cs) ← fixedDigits 4 cs
  let cs ← expect '-' cs
  let (month, cs) ← fixedDigits 2 cs
  let cs ← expect '-' cs
  let (day, cs) ← fixedDigits 2 cs
  if 1 ≤ month && month ≤ 12 && 1 ≤ day && day ≤ daysOf year month then some cs else none

/-- The rest after the fraction of a second, if there is one. -/
def afterFraction (cs : List Char) : Option (List Char) :=
  match cs with
  | '.' :: r => if r.head?.any Char.isDigit then some (r.dropWhile Char.isDigit) else none
  | cs => some cs

/-- The rest after a time of day; its seconds may be left out. -/
def afterTime (cs : List Char) : Option (List Char) := do
  let (hour, cs) ← fixedDigits 2 cs
  let cs ← expect ':' cs
  let (minute, cs) ← fixedDigits 2 cs
  if 23 < hour || 59 < minute then none
  match cs with
  | ':' :: r =>
    let (second, cs) ← fixedDigits 2 r
    if 60 < second then none
    afterFraction cs
  | cs => some cs

/-- Whether a text is nothing, or the distance from universal time. -/
def isOffset (cs : List Char) : Bool :=
  match cs with
  | [] | ['Z'] | ['z'] => true
  | sign :: r =>
    (sign == '+' || sign == '-') && (afterTime r == some []) && r.length == 5

/-- A date with or without a time and an offset, or a time. -/
def isDate (cs : List Char) : Bool :=
  match afterDate cs with
  | some [] => true
  | some (c :: r) => (c == 'T' || c == 't' || c == ' ') && ((afterTime r).map isOffset).getD false
  | none => afterTime cs == some []

/-! ## Reading -/

/-- The value that a text without quotes stands for. -/
def scalar? (cs : List Char) : Option Value :=
  if cs == "true".toList then some (.bool true)
  else if cs == "false".toList then some (.bool false)
  else if isWhole cs || isFloat cs then some .number
  else if isDate cs then some .date
  else none

end ClassAtlas.Toml
