/-
Reading bytes as UTF-8 without failing. Bytes that form no character are read as replacement
characters: one for each longest run that starts a character and does not finish it, and one for
each byte that starts none.
-/

namespace ClassAtlas.Text.Utf8

/-- What may follow a first byte: how many bytes, and the range of the first of them. None for a
byte that starts no character of several bytes. -/
def followers? (b : UInt8) : Option (Nat × UInt8 × UInt8) :=
  if 0xC2 ≤ b && b ≤ 0xDF then some (1, 0x80, 0xBF)
  else if b == 0xE0 then some (2, 0xA0, 0xBF)
  else if b == 0xED then some (2, 0x80, 0x9F)
  else if 0xE1 ≤ b && b ≤ 0xEF then some (2, 0x80, 0xBF)
  else if b == 0xF0 then some (3, 0x90, 0xBF)
  else if 0xF1 ≤ b && b ≤ 0xF3 then some (3, 0x80, 0xBF)
  else if b == 0xF4 then some (3, 0x80, 0x8F)
  else none

/-- The character that starts with a byte, and the number of further bytes it takes. -/
def first (b : UInt8) (rest : List UInt8) : Char × Nat :=
  if b < 0x80 then
    (Char.ofNat b.toNat, 0)
  else
    match followers? b, rest with
    | some (n, low, high), c :: _ =>
      if low ≤ c && c ≤ high then
        let taken := c :: ((rest.take n).drop 1).takeWhile fun d => 0x80 ≤ d && d ≤ 0xBF
        if taken.length = n then
          (Char.ofNat (taken.foldl (fun v d => 64 * v + d.toNat % 64) (b.toNat % Nat.pow 2 (6 - n))), n)
        else
          ('\ufffd', taken.length)
      else
        ('\ufffd', 0)
    | _, _ => ('\ufffd', 0)

/-- The characters of a list of bytes; `skip` counts bytes of a character already read. -/
def decode (skip : Nat) : List UInt8 → List Char
  | [] => []
  | b :: r =>
    match skip with
    | n + 1 => decode n r
    | 0 =>
      let (c, n) := first b r
      c :: decode n r

/-- The bytes of a text. -/
def encode (cs : List Char) : List UInt8 :=
  cs.flatMap String.utf8EncodeChar

end ClassAtlas.Text.Utf8
