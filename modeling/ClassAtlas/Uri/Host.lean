/-
Hosts of URIs: a name, or a numeric address of four or sixteen bytes. Hosts of special schemes are
read with their percent codes resolved and their letters in lower case, and a name whose last part
is a number must be an address; hosts of other schemes are kept as they are.
-/
import ClassAtlas.Uri.Fault
import ClassAtlas.Uri.Name
import ClassAtlas.Uri.Percent

namespace ClassAtlas.Uri

open ClassAtlas.Text

/-- A host. The parts of an address of eight parts have sixteen bits each. -/
inductive Host
  | name (text : List Char)
  | fourByte (address : Nat)
  | eightPart (parts : List Nat)
  deriving DecidableEq, Repr

/-- Decimal digits of a number. -/
def decimal (n : Nat) : List Char :=
  Nat.toDigits 10 n

/-! ## Addresses of four bytes -/

/-- One part of an address: decimal, octal after `0`, or hexadecimal after `0x`. -/
def addressPart? : List Char → Option Nat
  | [] => none
  | '0' :: x :: r =>
    if x = 'x' ∨ x = 'X' then numeral? 16 r else numeral? 8 (x :: r)
  | cs => numeral? 10 cs

/-- The parts of a name between dots, without an empty last one. -/
def dotParts (cs : List Char) : List (List Char) :=
  let parts := splitAt (· == '.') cs
  if 1 < parts.length && parts.getLast? == some [] then parts.dropLast else parts

/-- Whether the last part of a name is a number, so that the name must be an address. -/
def endsInNumber (cs : List Char) : Bool :=
  match (dotParts cs).getLast? with
  | none => false
  | some last => (last ≠ [] && last.all Char.isDigit) || (addressPart? last).isSome

/-- The address that a dotted name stands for: the last part fills all bytes the others leave. -/
def fourByte? (cs : List Char) : Option Nat := do
  let parts := dotParts cs
  if 4 < parts.length then none
  let numbers ← parts.mapM addressPart?
  let last ← numbers.getLast?
  let leading := numbers.dropLast
  if leading.any (255 < ·) || Nat.pow 256 (4 - leading.length) ≤ last then none
  return last + (leading.zipIdx.map fun (n, i) => n * Nat.pow 256 (3 - i)).foldr (· + ·) 0

/-- The text of an address of four bytes. -/
def fourByteText (address : Nat) : List Char :=
  ['.'].intercalate ([3, 2, 1, 0].map fun i => decimal (address / Nat.pow 256 i % 256))

/-! ## Addresses of eight parts -/

/-- The parts of an address of eight parts that does not leave out a run of zeros; the last piece
may be an address of four bytes and counts for two parts. -/
def plainParts? : List (List Char) → Option (List Nat)
  | [] => some []
  | [last] =>
    if last.contains '.' then do
      let bytes := splitAt (· == '.') last
      if bytes.length ≠ 4 then none
      let numbers ← bytes.mapM fun b =>
        if b = [] || (1 < b.length && b.head? = some '0') then none else numeral? 10 b
      if numbers.any (255 < ·) then none
      match numbers with
      | [a, b, c, d] => some [256 * a + b, 256 * c + d]
      | _ => none
    else if last = [] || 4 < last.length then none
    else do return [← numeral? 16 last]
  | p :: ps => do
    if p = [] || 4 < p.length then none
    return (← numeral? 16 p) :: (← plainParts? ps)

/-- The place of the first double colon of a text. -/
def splitAtGap : List Char → Option (List Char × List Char)
  | ':' :: ':' :: r => some ([], r)
  | [] => none
  | c :: r => (splitAtGap r).map fun (a, b) => (c :: a, b)

/-- The parts of a text without a double colon; the empty text has none. -/
def colonParts? (cs : List Char) : Option (List Nat) :=
  if cs = [] then some [] else plainParts? (splitAt (· == ':') cs)

/-- Reads an address of eight parts; a double colon stands for the zeros that are missing. -/
def eightPart? (cs : List Char) : Option (List Nat) :=
  match splitAtGap cs with
  | none => do
    let parts ← colonParts? cs
    if parts.length = 8 then some parts else none
  | some (before, after) => do
    if before.contains '.' then none
    let front ← colonParts? before
    let back ← colonParts? after
    if front.length + back.length < 8 then
      some (front ++ List.replicate (8 - (front.length + back.length)) 0 ++ back)
    else
      none

/-- The number of zeros that start a list. -/
def zerosAt (parts : List Nat) : Nat :=
  (parts.takeWhile (· = 0)).length

/-- The start and length of the longest run of zeros, the first of several; `index` is the place of
the first part. -/
def longestZeros (index : Nat) : List Nat → Nat × Nat
  | [] => (index, 0)
  | p :: ps =>
    let (start, length) := longestZeros (index + 1) ps
    if length ≤ zerosAt (p :: ps) then (index, zerosAt (p :: ps)) else (start, length)

/-- The text of an address of eight parts: a run of two or more zeros is left out. -/
def eightPartText (parts : List Nat) : List Char :=
  let hex (ps : List Nat) : List Char := [':'].intercalate (ps.map (Nat.toDigits 16))
  let (start, length) := longestZeros 0 parts
  if length < 2 then
    hex parts
  else
    hex (parts.take start) ++ [':', ':'] ++ hex (parts.drop (start + length))

/-! ## Names -/

/-- Characters that no host may hold. -/
def isForbiddenInHost (c : Char) : Bool :=
  "\x00\t\n\r #/:<>?@[\\]^|".toList.contains c

/-- Characters that a name of a special scheme may not hold either. -/
def isForbiddenInName (c : Char) : Bool :=
  isForbiddenInHost c || c.toNat < 0x20 || c == '%' || c.toNat == 0x7F

/-! ## Reading hosts -/

/-- The text between square brackets, if a text starts with one; the inner value is none if no
bracket closes it. -/
def bracketed? (cs : List Char) : Option (Option (List Char)) :=
  match cs with
  | '[' :: r => some (if r.getLast? = some ']' then some r.dropLast else none)
  | _ => none

namespace Host

/-- Reads the host of a special scheme, which is not empty. -/
def special (cs : List Char) : Except Fault Host :=
  match bracketed? cs with
  | some inner => (((inner.bind eightPart?).map eightPart).elim (.error .badEightPart) .ok)
  | none =>
    let decoded := String.fromUTF8? ⟨(percentDecode cs).toArray⟩
    match decoded.bind fun s => Name.ascii? s.toList with
    | none => .error .badName
    | some text =>
      if text.any isForbiddenInName then .error .badName
      else if text = [] then .error .emptyHost
      else if endsInNumber text then
        (fourByte? text).elim (.error .badFourByte) fun address => .ok (.fourByte address)
      else .ok (.name text)

/-- Reads the host of any other scheme, which may be the empty name. -/
def other (cs : List Char) : Except Fault Host :=
  match bracketed? cs with
  | some inner => (((inner.bind eightPart?).map eightPart).elim (.error .badEightPart) .ok)
  | none =>
    if cs.any isForbiddenInHost then .error .badCharacter
    else .ok (.name (percentEncodeText codedAlways cs))

/-- The text of a host. -/
def text : Host → List Char
  | .name cs => cs
  | .fourByte address => fourByteText address
  | .eightPart parts => ['['] ++ eightPartText parts ++ [']']

end Host

end ClassAtlas.Uri
