/-
Writing JSON, on one line and without spaces.
-/
import ClassAtlas.Decimal.Shortest
import ClassAtlas.Json

namespace ClassAtlas.Json

/-- One character of a text between quotes. -/
def textChar (c : Char) : List Char :=
  if c = '"' ∨ c = '\\' then ['\\', c]
  else if c = '\n' then ['\\', 'n']
  else if c = '\r' then ['\\', 'r']
  else if c = '\t' then ['\\', 't']
  else if c = '\x08' then ['\\', 'b']
  else if c = '\x0c' then ['\\', 'f']
  else if c.toNat < 0x20 then
    ['\\', 'u', '0', '0'] ++ (if c.toNat < 16 then ['0'] else []) ++ Nat.toDigits 16 c.toNat
  else [c]

/-- A text between quotes. -/
def quote (s : String) : String :=
  String.ofList (['"'] ++ s.toList.flatMap textChar ++ ['"'])

mutual

/-- A value as text. -/
def print : Json → String
  | .null => "null"
  | .bool b => if b then "true" else "false"
  | .whole n => toString n
  | .real x => Decimal.floatText x
  | .text s => quote s
  | .array items => "[" ++ ",".intercalate (printItems items) ++ "]"
  | .object fields => "\x7b" ++ ",".intercalate (printFields fields) ++ "\x7d"

/-- The texts of some items. -/
def printItems : List Json → List String
  | [] => []
  | v :: r => print v :: printItems r

/-- The texts of some fields with their names. -/
def printFields : List (String × Json) → List String
  | [] => []
  | (name, v) :: r => (quote name ++ ":" ++ print v) :: printFields r

end

end ClassAtlas.Json
