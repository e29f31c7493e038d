/-
Names in stylesheets and the escapes inside them. A backslash starts an escape unless a line ends
right after it: up to six hexadecimal digits with one white space after them stand for the
character with that number, any other character stands for itself.

Lengths are counted rather than names returned: a name is the first `nameLength` characters of the
text that starts with it. `skip` counts characters that belong to an escape already met, which
keeps the recursion on the text itself.
-/

namespace ClassAtlas.Stylesheet

/-! ## Character classes -/

/-- A character that ends a line of a stylesheet. -/
def isNewline (c : Char) : Bool :=
  c == '\n' || c == '\r' || c == '\x0c'

/-- White space of a stylesheet: space, tab and the line ends. -/
def isGap (c : Char) : Bool :=
  c == ' ' || c == '\t' || isNewline c

/-- Whether a line ends at the start of a text. -/
def startsNewline : List Char → Bool
  | [] => false
  | c :: _ => isNewline c

/-- A hexadecimal digit. -/
def isHex (c : Char) : Bool :=
  c.isDigit || ('a' ≤ c && c ≤ 'f') || ('A' ≤ c && c ≤ 'F')

/-- The value of a hexadecimal digit; other characters count as zero. -/
def hexValue (c : Char) : Nat :=
  if c.isDigit then c.toNat - '0'.toNat
  else if 'a' ≤ c && c ≤ 'f' then c.toNat - 'a'.toNat + 10
  else if 'A' ≤ c && c ≤ 'F' then c.toNat - 'A'.toNat + 10
  else 0

/-- A character that a name may start with: a letter, `_`, NUL, or anything beyond ASCII. -/
def isNameStart (c : Char) : Bool :=
  c.isAlpha || c == '_' || c == '\x00' || 0x80 ≤ c.toNat

/-- A character that may stand inside a name. -/
def isNameChar (c : Char) : Bool :=
  isNameStart c || c.isDigit || c == '-'

/-! ## Escapes -/

/-- The length of the one white space that may follow the digits of an escape. -/
def gapLength : List Char → Nat
  | '\r' :: '\n' :: _ => 2
  | c :: _ => if isGap c then 1 else 0
  | [] => 0

/-- The hexadecimal digits of the escape whose backslash stands before a text. -/
def escapeDigits (s : List Char) : List Char :=
  (s.take 6).takeWhile isHex

/-- The number of characters that an escape takes after its backslash. -/
def escapeLength (s : List Char) : Nat :=
  match s, (escapeDigits s).length with
  | [], _ => 0
  | _ :: _, 0 => 1
  | _ :: _, n + 1 => n + 1 + gapLength (s.drop (n + 1))

/-- The replacement character, which stands for what cannot be written. -/
def replacement : Char := '\ufffd'

/-- The character with a number; the replacement for zero and for numbers of no character. -/
def charOfNumber (n : Nat) : Char :=
  if n = 0 then replacement
  else if h : n.isValidChar then Char.ofNatAux n h
  else replacement

/-- The character that the escape after a backslash stands for. -/
def escapedChar (s : List Char) : Char :=
  match s, escapeDigits s with
  | [], _ => replacement
  | c :: _, [] => if c = '\x00' then replacement else c
  | _ :: _, digits => charOfNumber (digits.foldl (fun n d => 16 * n + hexValue d) 0)

/-! ## Names -/

/-- The length of the longest name that starts a text. -/
def nameLength (skip : Nat) : List Char → Nat
  | [] => 0
  | c :: r =>
    match skip with
    | n + 1 => nameLength n r + 1
    | 0 =>
      if c = '\\' then
        if startsNewline r then 0 else nameLength (escapeLength r) r + 1
      else if isNameChar c then
        nameLength 0 r + 1
      else
        0

/-- Whether a name starts a text. A hyphen with a backslash after it always starts one. -/
def startsName : List Char → Bool
  | '-' :: c :: _ => isNameStart c || c == '-' || c == '\\'
  | '\\' :: r => !startsNewline r
  | c :: _ => isNameStart c
  | [] => false

/-- A name with its escapes read, and the replacement character for each NUL. -/
def unescape (skip : Nat) : List Char → List Char
  | [] => []
  | c :: r =>
    match skip with
    | n + 1 => unescape n r
    | 0 =>
      if c = '\\' then
        escapedChar r :: unescape (escapeLength r) r
      else if c = '\x00' then
        replacement :: unescape 0 r
      else
        c :: unescape 0 r

/-- Whether a written name means `name`, which is in lower case, in any ASCII letter case. -/
def namesKeyword (written : List Char) (name : String) : Bool :=
  (unescape 0 written).map Char.toLower == name.toList

theorem escapeLength_cons_pos (c : Char) (r : List Char) : 0 < escapeLength (c :: r) := by
  unfold escapeLength
  split
  · contradiction
  · exact Nat.one_pos
  · exact Nat.lt_of_lt_of_le (Nat.succ_pos _) (Nat.le_add_right _ _)

end ClassAtlas.Stylesheet
