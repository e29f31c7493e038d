/-
Percent codes. A byte that a part of a URI may not hold is written as `%` and two hexadecimal
digits; which bytes those are depends on the part, and bytes beyond ASCII always are.
-/
import ClassAtlas.Text.Pieces
import ClassAtlas.Text.Utf8

namespace ClassAtlas.Uri

/-- A hexadecimal digit in upper case. -/
def hexDigit (n : Nat) : Char :=
  if n < 10 then Char.ofNat ('0'.toNat + n) else Char.ofNat ('A'.toNat + (n - 10))

/-- The code of a byte. -/
def percentCode (b : UInt8) : List Char :=
  ['%', hexDigit (b.toNat / 16), hexDigit (b.toNat % 16)]

/-- Writes bytes as text, with codes for those that must be coded. -/
def percentEncode (coded : UInt8 → Bool) (bytes : List UInt8) : List Char :=
  bytes.flatMap fun b => if coded b then percentCode b else [Char.ofNat b.toNat]

/-- Reads text as bytes. A `%` without two digits after it stands for itself. -/
def percentDecode : List Char → List UInt8
  | [] => []
  | '%' :: a :: b :: r =>
    match Text.digitValue? a, Text.digitValue? b with
    | some m, some n => UInt8.ofNat (16 * m + n) :: percentDecode r
    | _, _ => 0x25 :: percentDecode (a :: b :: r)
  | c :: r => String.utf8EncodeChar c ++ percentDecode r

/-- Whether the character of an ASCII byte is in a list. -/
def isOneOf (list : String) (b : UInt8) : Bool :=
  list.toList.contains (Char.ofNat b.toNat)

/-- Control characters and bytes beyond ASCII, which are coded everywhere. -/
def codedAlways (b : UInt8) : Bool :=
  b < 0x20 || 0x7F ≤ b

/-- What is coded in a fragment. -/
def codedInFragment (b : UInt8) : Bool :=
  codedAlways b || isOneOf " \"<>\x60" b

/-- What is coded in a query; in the URIs of special schemes the apostrophe is, too. -/
def codedInQuery (special : Bool) (b : UInt8) : Bool :=
  codedAlways b || isOneOf " \"#<>" b || (special && b == 0x27)

/-- What is coded in a path. -/
def codedInPath (b : UInt8) : Bool :=
  codedInFragment b || isOneOf "#?\x7b\x7d" b

/-- What is coded in a path made of the names of files: also what would be read as something
else than part of a name. -/
def codedInName (b : UInt8) : Bool :=
  codedInPath b || isOneOf "/%\\" b

/-- What is coded in the name and password of a user. -/
def codedInUser (b : UInt8) : Bool :=
  codedInPath b || isOneOf "/:;=@[\\]^|" b

/-- Writes a text with codes for what must be coded. -/
def percentEncodeText (coded : UInt8 → Bool) (cs : List Char) : List Char :=
  percentEncode coded (Text.Utf8.encode cs)

end ClassAtlas.Uri
