/-
Texts in double quotes, for the log. Quotes and backslashes get a backslash; tabs, line ends and
NUL have letters of their own; other characters that are not printable, or that would be drawn
into the character before them, are given by their number.
-/
import ClassAtlas.Text.Printable

namespace ClassAtlas.Text

/-- One character as it stands between double quotes. -/
def quotedChar (c : Char) : List Char :=
  if c = '\x00' then ['\\', '0']
  else if c = '\t' then ['\\', 't']
  else if c = '\r' then ['\\', 'r']
  else if c = '\n' then ['\\', 'n']
  else if c = '"' ∨ c = '\\' then ['\\', c]
  else if extendsGrapheme c || !isPrintable c then
    ['\\', 'u', '\x7b'] ++ Nat.toDigits 16 c.toNat ++ ['\x7d']
  else [c]

/-- A text in double quotes. -/
def quoted (cs : List Char) : String :=
  String.ofList (['"'] ++ cs.flatMap quotedChar ++ ['"'])

end ClassAtlas.Text
